import Reckon.Proofs.Grammar.Parse
import Reckon.Proofs.Outcome
import Reckon.Proofs.Value.Hereditary

/-!
Reading and evaluating tokens keeps the properties that values share with their parts, as long as
operators and calls do, and raises no errors but those that are admitted of the grammar, of names,
of the limit, and of operators and calls.
-/

namespace Reckon

open Outcome Parse Production

/-- Wherever the reader starts, it ends with a good result or an admitted error. -/
def Parse.Always {α : Type} (good : α → Prop) (admits : Error → Prop) (reader : Parse α) : Prop :=
  ∀ position, Ends good (Fault.Raises admits) (reader position).1

/-- Operators that keep a property, with the errors that they may raise. -/
structure Registry.KeepsOperators (registry : Registry) (good : Value → Prop)
    (admits : Error → Prop) : Prop where
  unary : ∀ {symbol operator}, registry.unaryOperator? symbol = some operator →
    ∀ operand, good operand → Ends good admits (operator operand)
  binary : ∀ {symbol operator}, registry.operator? symbol = some operator →
    ∀ left right, good left → good right → Ends good admits (operator left right)

/-- A frame whose bindings have a hereditary property and whose operators and calls keep it, with
the errors that may end it. -/
structure Frame.Keeps (frame : Frame) (good : Value → Prop) (admits : Error → Prop) : Prop where
  hereditary : Value.Hereditary good
  bound : ∀ entry ∈ frame.bindings, good entry.2
  rejects : ∀ near, admits (.invalidExpression near)
  rejectsObject : ∀ near, admits (.invalidObject near)
  limits : ∀ limit, frame.limit = some limit → admits (.nestingTooDeep limit)
  missing : ∀ name error, Grammar.lookup frame.bindings name = .error error → admits error
  operators : frame.registry.KeepsOperators good admits
  invoke : ∀ {name callee}, frame.registry.function? name = some callee →
    ∀ position arguments, (∀ argument ∈ arguments, good argument) →
      Ends good (Fault.Raises admits) (frame.invoke position callee arguments)

/-- What a production has read so far is good, and what it calls is registered. -/
def Production.Holds (registry : Registry) (good : Value → Prop) : Production → Prop
  | .tail left _ => good left
  | .elements done => ∀ item ∈ done, good item
  | .entries done => good (.object done)
  | .arguments callee done =>
      (∃ name, registry.function? name = some callee) ∧ ∀ argument ∈ done, good argument
  | _ => True

namespace Parse

variable {α β : Type} {good : α → Prop} {better : β → Prop} {admits : Error → Prop}

theorem always_pure {value : α} (holds : good value) : Always good admits (pure value) :=
  fun _ => holds

theorem always_fail {error : Error} (admitted : admits error) :
    Always good admits (fail error) :=
  fun _ => admitted

theorem always_liftError {result : Except Error α} (ends : Ends good admits result) :
    Always good admits (liftError result) := by
  intro position
  cases result with
  | ok value => exact ends
  | error error => exact ends

theorem always_bind {first : Parse α} {next : α → Parse β} (before : Always good admits first)
    (after : ∀ value, good value → Always better admits (next value)) :
    Always better admits (first >>= next) := by
  intro position
  have here := before position
  rcases bind_cases first next position with
    ⟨fault, reached, read, whole⟩ | ⟨value, reached, read, whole⟩
  · rw [read] at here
    rw [whole]
    exact here
  · rw [read] at here
    rw [whole]
    exact after value here reached

theorem always_peek {frame : Frame} {next : Option String → Parse β}
    (after : ∀ found, Always better admits (next found)) :
    Always better admits (current frame >>= next) :=
  fun position => after _ position

theorem always_advance {next : Unit → Parse β} (after : Always better admits (next ())) :
    Always better admits (advance >>= next) :=
  fun position => after (position + 1)

end Parse

namespace Frame.Keeps

variable {frame : Frame} {good : Value → Prop} {admits : Error → Prop}
  (keeps : frame.Keeps good admits) {again : Nat → Production → Parse Value}
  (within : ∀ depth production, production.Holds frame.registry good →
    Always good admits (again depth production))

include keeps

theorem expect {β : Type} {better : β → Prop} {token : String} {next : Unit → Parse β}
    (after : Always better admits (next ())) :
    Always better admits (Parse.expect frame token >>= next) := by
  intro position
  rw [expect_bind]
  split
  · exact after (position + 1)
  · exact keeps.rejects _

theorem nested {depth : Nat} {inner : Nat → Parse Value}
    (inside : ∀ depth, Always good admits (inner depth)) :
    Always good admits (Production.nested frame depth inner) := by
  unfold Production.nested
  split
  · rename_i limit limited
    split
    · exact always_fail (keeps.limits limit limited)
    · exact inside (depth + 1)
  · exact inside (depth + 1)

theorem name (token : String) : Always good admits (Production.name frame token) := by
  refine always_advance ?_
  split
  · rename_i value found
    exact always_pure (keeps.hereditary.lookup keeps.bound found)
  · rename_i error failed
    refine always_peek fun found => ?_
    split
    · exact always_fail (keeps.rejects _)
    · exact always_fail (keeps.missing token error failed)

include within

theorem operand (depth : Nat) : Always good admits (Production.operand frame again depth) := by
  refine always_peek fun found => ?_
  cases found with
  | none => exact always_fail (keeps.rejects none)
  | some token => exact within depth (.unary token) trivial

theorem callOf (depth : Nat) {name : String} {callee : Callable}
    (registered : frame.registry.function? name = some callee) :
    Always good admits (Production.callOf frame again depth callee) := by
  refine always_advance (keeps.expect ?_)
  exact within depth (.arguments callee []) ⟨⟨name, registered⟩, List.forall_mem_nil _⟩

theorem factor (depth : Nat) (token : String) :
    Always good admits (Production.factor frame again depth token) := by
  unfold Production.factor
  split
  · refine always_advance (always_bind (within depth (.expression 0) trivial) ?_)
    exact fun value holds => keeps.expect (always_pure holds)
  split
  · exact always_advance (always_pure (keeps.hereditary.number _))
  split
  · exact always_advance (always_pure (keeps.hereditary.string _))
  split
  · exact always_advance (always_pure (keeps.hereditary.boolean _))
  split
  · exact always_advance (within depth (.elements []) (List.forall_mem_nil _))
  split
  · exact always_advance (within depth (.entries []) keeps.hereditary.object)
  split
  · exact always_advance (always_pure (keeps.hereditary.resolve keeps.bound token))
  cases registered : frame.registry.function? token with
  | some callee => exact keeps.callOf within depth registered
  | none =>
      dsimp only
      split
      · exact always_fail (keeps.rejects _)
      · exact keeps.name token

theorem unaryOrFactor (depth : Nat) (token : String) :
    Always good admits (Production.unaryOrFactor frame again depth token) := by
  unfold Production.unaryOrFactor
  split
  · rename_i operator registered
    refine always_advance (always_bind (keeps.nested fun inner => keeps.operand within inner) ?_)
    exact fun value holds => always_liftError (keeps.operators.unary registered value holds)
  · exact keeps.factor within depth token

theorem climb (depth : Nat) {left : Value} (holds : good left) (floor : Precedence) :
    Always good admits (Production.climb frame again depth left floor) := by
  refine always_peek fun found => ?_
  cases found with
  | none => exact always_pure holds
  | some token =>
      dsimp only
      split
      · exact always_pure holds
      · rename_i operator registered
        split
        · exact always_pure holds
        · refine always_advance (always_bind (within depth (.expression _) trivial) ?_)
          intro right holdsRight
          refine always_bind (always_liftError
            (keeps.operators.binary registered left right holds holdsRight)) ?_
          exact fun folded holds => within depth (.tail folded floor) holds

theorem restOfArray (depth : Nat) {done : List Value} (holds : ∀ item ∈ done, good item) :
    Always good admits (Production.restOfArray frame again depth done) := by
  refine always_peek fun found => ?_
  split
  · refine always_advance (always_pure (keeps.hereditary.array ?_))
    exact fun item member => holds item (List.mem_reverse.mp member)
  · refine always_bind (within depth (.expression 0) trivial) fun item here => ?_
    have more : Always good admits (again depth (.elements (item :: done))) :=
      within depth _ (List.forall_mem_cons.mpr ⟨here, holds⟩)
    refine always_peek fun next => ?_
    split
    · refine always_advance (always_peek fun last => ?_)
      split
      · exact always_fail (keeps.rejects _)
      · exact more
    · exact more
    · exact always_fail (keeps.rejects _)

theorem entry (depth : Nat) {done : Table Value} (holds : good (.object done)) (key : String) :
    Always (fun done => good (.object done)) admits
      (Production.entry frame again depth done key) := by
  unfold Production.entry
  split
  · rename_i token _
    have value : Always good admits (Production.nested frame depth fun inner => do
        let left ← again inner (.unary token)
        again inner (.tail left 0)) :=
      keeps.nested fun inner => always_bind (within inner (.unary token) trivial)
        fun left holds => within inner (.tail left 0) holds
    refine always_bind value fun value spread => ?_
    split
    · rename_i written spreads
      exact always_pure (keeps.hereditary.insertAll holds (keeps.hereditary.spread spread spreads))
    · exact always_fail (keeps.rejectsObject _)
  · split
    · exact always_fail (keeps.rejectsObject _)
    · refine always_advance (always_peek fun colon => ?_)
      split
      · exact always_fail (keeps.rejectsObject _)
      · refine always_advance (always_peek fun first => ?_)
        split
        · exact always_fail (keeps.rejectsObject _)
        · refine always_bind (within depth (.expression 0) trivial) fun value here => ?_
          exact always_pure (keeps.hereditary.insert holds here)

theorem restOfObject (depth : Nat) {done : Table Value} (holds : good (.object done)) :
    Always good admits (Production.restOfObject frame again depth done) := by
  refine always_peek fun found => ?_
  cases found with
  | none => exact always_fail (keeps.rejectsObject _)
  | some key =>
      refine always_bind (keeps.entry within depth holds key) fun done holds => ?_
      refine always_peek fun next => ?_
      split
      · exact always_advance (always_pure holds)
      · exact always_advance (within depth (.entries done) holds)
      · exact always_fail (keeps.rejectsObject _)

theorem restOfArguments (depth : Nat) {callee : Callable} {done : List Value}
    (registered : ∃ name, frame.registry.function? name = some callee)
    (holds : ∀ argument ∈ done, good argument) :
    Always good admits (Production.restOfArguments frame again depth callee done) := by
  refine always_peek fun found => ?_
  split
  · obtain ⟨name, registered⟩ := registered
    intro position
    exact keeps.invoke registered (position + 1) done.reverse
      fun argument member => holds argument (List.mem_reverse.mp member)
  · refine always_bind (within depth (.expression 0) trivial) fun argument here => ?_
    have more : Always good admits (again depth (.arguments callee (argument :: done))) :=
      within depth _ ⟨registered, List.forall_mem_cons.mpr ⟨here, holds⟩⟩
    refine always_peek fun next => ?_
    split
    · refine always_advance (always_peek fun last => ?_)
      split
      · exact always_fail (keeps.rejects _)
      · exact more
    · exact more

theorem step (depth : Nat) {production : Production}
    (holds : production.Holds frame.registry good) :
    Always good admits (Production.step frame again depth production) := by
  cases production with
  | expression floor =>
      refine keeps.nested fun inner => always_bind (keeps.operand within inner) ?_
      exact fun left holds => within inner (.tail left floor) holds
  | unary token => exact keeps.unaryOrFactor within depth token
  | tail left floor => exact keeps.climb within depth holds floor
  | elements done => exact keeps.restOfArray within depth holds
  | entries done => exact keeps.restOfObject within depth holds
  | arguments callee done => exact keeps.restOfArguments within depth holds.1 holds.2

omit within in
theorem run (fuel depth : Nat) (production : Production)
    (holds : production.Holds frame.registry good) :
    Always good admits (Production.run frame fuel depth production) := by
  induction fuel generalizing depth production with
  | zero => exact fun _ => trivial
  | succ fuel ih => exact keeps.step ih depth holds

omit within in
/-- The outcome of a frame that keeps a property has it, or is an admitted error. -/
theorem outcome : Ends good (Fault.Raises admits) frame.outcome := by
  have formula : Always good admits frame.formula := by
    refine always_bind (keeps.run (fuelFor frame.tokens.size) 0 (.expression 0) trivial) ?_
    intro value holds
    refine always_peek fun found => ?_
    cases found with
    | none => exact always_pure holds
    | some trailing => exact always_fail (keeps.rejects _)
  exact formula 0

end Frame.Keeps

end Reckon
