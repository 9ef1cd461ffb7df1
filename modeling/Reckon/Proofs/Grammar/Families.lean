import Reckon.Proofs.Grammar.Parse

/-!
Frames that differ only in their limits and in what their calls give.  A property of readers over
such frames that sequences keep, and that limits, operators and calls have, holds of every
production.
-/

namespace Reckon

def Frame.vary (frame : Frame) (limit : Option Nat)
    (invoke : Nat → Callable → List Value → Outcome) :
    Frame :=
  { frame with limit, invoke }

section

variable (frame : Frame) (limit : Option Nat) (invoke : Nat → Callable → List Value → Outcome)

@[simp]
theorem Frame.vary_bindings : (frame.vary limit invoke).bindings = frame.bindings := rfl

@[simp]
theorem Frame.vary_registry : (frame.vary limit invoke).registry = frame.registry := rfl

@[simp]
theorem Frame.vary_limit : (frame.vary limit invoke).limit = limit := rfl

end

def Production.Admissible (registry : Registry) : Production → Prop
  | .arguments callee _ => ∃ name, registry.function? name = some callee
  | _ => True

/-- An end that neither a limit nor an allowance brings about. -/
def Outcome.Ordinary {α : Type} (result : Except Fault α) : Prop :=
  result ≠ .error .unfinished ∧ ∀ limit, result ≠ .error (.raised (.nestingTooDeep limit))

theorem Outcome.ordinary_ok {α : Type} (value : α) : Ordinary (.ok value : Except Fault α) :=
  ⟨nofun, nofun⟩

theorem Outcome.ordinary_raised {α : Type} {error : Error}
    (other : ∀ limit, error ≠ .nestingTooDeep limit) :
    Ordinary (.error (.raised error) : Except Fault α) := by
  refine ⟨nofun, ?_⟩
  intro limit same
  cases same
  exact other limit rfl

def Outcome.Shallow {α : Type} (result : Except Error α) : Prop :=
  ∀ limit, result ≠ .error (.nestingTooDeep limit)

theorem Grammar.eq_of_lookup_error {bindings : Table Value} {name : String} {error : Error}
    (missing : lookup bindings name = .error error) : error = .missingVariable name := by
  unfold lookup at missing
  split at missing <;> cases missing <;> rfl

inductive Registry.Gives (registry : Registry) : Except Error Value → Prop
  | unary {symbol : String} {operator : UnaryOperator}
      (registered : registry.unaryOperator? symbol = some operator) (operand : Value) :
      Gives registry (operator operand)
  | binary {symbol : String} {operator : BinaryOperator}
      (registered : registry.operator? symbol = some operator) (left right : Value) :
      Gives registry (operator left right)

def Parse.Settled {α : Type} (reader : Parse α) : Prop :=
  ∀ position, Outcome.Ordinary (reader position).1

open Parse Production

variable {ι : Type} (frame : Frame) (limits : ι → Option Nat)
  (calls : ι → Nat → Callable → List Value → Outcome)

/-- A property of readers, one for each variant of a frame, that all productions have. -/
structure Invariant (Holds : {α : Type} → (ι → Parse α) → Prop) : Prop where
  settled : ∀ {α : Type} (reader : Parse α), reader.Settled → Holds fun _ => reader
  exhausted : Holds fun _ => (lift (.error .unfinished) : Parse Value)
  bind : ∀ {α β : Type} {first : ι → Parse α} {next : ι → α → Parse β}, Holds first →
    (∀ value, Holds fun i => next i value) → Holds fun i => first i >>= next i
  nested : ∀ depth {inner : ι → Nat → Parse Value}, (∀ depth, Holds fun i => inner i depth) →
    Holds fun i => nested (frame.vary (limits i) (calls i)) depth (inner i)
  operated : ∀ {result : Except Error Value}, frame.registry.Gives result →
    Holds fun _ => liftError result
  invoke : ∀ position callee arguments, (∃ name, frame.registry.function? name = some callee) →
    Holds fun i => lift (calls i position callee arguments)

namespace Invariant

variable {frame limits calls} {Holds : {α : Type} → (ι → Parse α) → Prop}
  (invariant : Invariant frame limits calls Holds)
  {again : ι → Nat → Production → Parse Value}
  (within : ∀ depth production, production.Admissible frame.registry →
    Holds fun i => again i depth production)

include invariant

theorem pure {α : Type} (value : α) : Holds fun _ => (Pure.pure value : Parse α) :=
  invariant.settled _ fun _ => Outcome.ordinary_ok value

theorem fail {α : Type} (error : Error) (other : ∀ limit, error ≠ .nestingTooDeep limit) :
    Holds fun _ => (Parse.fail error : Parse α) :=
  invariant.settled _ fun _ => Outcome.ordinary_raised other

theorem reject {α : Type} (near : Option String) :
    Holds fun _ => (Parse.fail (.invalidExpression near) : Parse α) :=
  invariant.fail _ nofun

theorem rejectObject {α : Type} (near : Option String) :
    Holds fun _ => (Parse.fail (.invalidObject near) : Parse α) :=
  invariant.fail _ nofun

theorem advance : Holds fun _ => Parse.advance :=
  invariant.settled _ fun _ => Outcome.ordinary_ok ()

theorem current : Holds fun i => Parse.current (frame.vary (limits i) (calls i)) :=
  invariant.settled (Parse.current frame) fun _ => Outcome.ordinary_ok _

theorem position : Holds fun _ => Parse.position :=
  invariant.settled _ fun position => Outcome.ordinary_ok position

theorem expect (token : String) :
    Holds fun i => Parse.expect (frame.vary (limits i) (calls i)) token := by
  refine invariant.bind invariant.current fun found => ?_
  by_cases same : found = some token
  · simpa [same] using invariant.advance
  · simpa [same] using invariant.reject found

include within

theorem operand (depth : Nat) :
    Holds fun i => Production.operand (frame.vary (limits i) (calls i)) (again i) depth := by
  refine invariant.bind invariant.current fun found => ?_
  cases found with
  | none => exact invariant.reject none
  | some token => exact within depth _ trivial

theorem callOf (depth : Nat) {name : String} {callee : Callable}
    (registered : frame.registry.function? name = some callee) :
    Holds fun i => Production.callOf (frame.vary (limits i) (calls i)) (again i) depth callee := by
  refine invariant.bind invariant.advance fun _ => ?_
  refine invariant.bind (invariant.expect "(") fun _ => ?_
  exact within depth _ ⟨name, registered⟩

omit within in
theorem name (token : String) :
    Holds fun i => Production.name (frame.vary (limits i) (calls i)) token := by
  refine invariant.bind invariant.advance fun _ => ?_
  simp only [Frame.vary_bindings]
  cases found : Grammar.lookup frame.bindings token with
  | ok value => exact invariant.pure value
  | error error =>
      cases Grammar.eq_of_lookup_error found
      refine invariant.bind invariant.current fun found => ?_
      split
      · exact invariant.reject _
      · exact invariant.fail _ nofun

theorem factor (depth : Nat) (token : String) :
    Holds fun i => Production.factor (frame.vary (limits i) (calls i)) (again i) depth token := by
  unfold Production.factor
  split
  · refine invariant.bind invariant.advance fun _ => ?_
    refine invariant.bind (within depth _ trivial) fun value => ?_
    exact invariant.bind (invariant.expect ")") fun _ => invariant.pure value
  split
  · exact invariant.bind invariant.advance fun _ => invariant.pure _
  split
  · exact invariant.bind invariant.advance fun _ => invariant.pure _
  split
  · exact invariant.bind invariant.advance fun _ => invariant.pure _
  split
  · exact invariant.bind invariant.advance fun _ => within depth _ trivial
  split
  · exact invariant.bind invariant.advance fun _ => within depth _ trivial
  split
  · exact invariant.bind invariant.advance fun _ =>
      invariant.pure (Path.resolve frame.bindings token)
  simp only [Frame.vary_registry]
  rcases callable : frame.registry.function? token with _ | callee
  · change Holds fun i =>
      if (frame.registry.operator? token).isSome || Grammar.isPunctuation token then
        Parse.fail (.invalidExpression (some token))
      else Production.name (frame.vary (limits i) (calls i)) token
    split
    · exact invariant.reject _
    · exact invariant.name token
  · exact invariant.callOf within depth callable

theorem unaryOrFactor (depth : Nat) (token : String) :
    Holds fun i =>
      Production.unaryOrFactor (frame.vary (limits i) (calls i)) (again i) depth token := by
  unfold Production.unaryOrFactor
  simp only [Frame.vary_registry]
  cases registered : frame.registry.unaryOperator? token with
  | none => exact invariant.factor within depth token
  | some operator =>
      refine invariant.bind invariant.advance fun _ => ?_
      refine invariant.bind (invariant.nested depth fun inner => invariant.operand within inner) ?_
      exact fun value => invariant.operated (.unary registered value)

theorem climb (depth : Nat) (left : Value) (floor : Precedence) :
    Holds fun i =>
      Production.climb (frame.vary (limits i) (calls i)) (again i) depth left floor := by
  refine invariant.bind invariant.current fun found => ?_
  cases found with
  | none => exact invariant.pure left
  | some token =>
      simp only [Frame.vary_registry]
      cases registered : frame.registry.operator? token with
      | none => exact invariant.pure left
      | some operator =>
          change Holds fun i =>
            if frame.registry.precedence token < floor then Pure.pure left else _
          split
          · exact invariant.pure left
          · refine invariant.bind invariant.advance fun _ => ?_
            refine invariant.bind
              (within depth (.expression (frame.registry.precedence token).next) trivial) ?_
            intro right
            refine invariant.bind (invariant.operated (.binary registered left right)) ?_
            exact fun folded => within depth _ trivial

theorem restOfArray (depth : Nat) (done : List Value) :
    Holds fun i => Production.restOfArray (frame.vary (limits i) (calls i)) (again i) depth
      done := by
  refine invariant.bind invariant.current fun found => ?_
  split
  · exact invariant.bind invariant.advance fun _ => invariant.pure _
  · refine invariant.bind (within depth _ trivial) fun item => ?_
    refine invariant.bind invariant.current fun next => ?_
    split
    · refine invariant.bind invariant.advance fun _ => ?_
      refine invariant.bind invariant.current fun last => ?_
      split
      · exact invariant.reject _
      · exact within depth _ trivial
    · exact within depth _ trivial
    · exact invariant.reject _

theorem entry (depth : Nat) (done : Table Value) (key : String) :
    Holds fun i => Production.entry (frame.vary (limits i) (calls i)) (again i) depth done key := by
  unfold Production.entry
  split
  · refine invariant.bind (invariant.nested depth fun inner => ?_) fun value => ?_
    · exact invariant.bind (within inner _ trivial) fun left => within inner _ trivial
    · split
      · exact invariant.pure _
      · exact invariant.rejectObject _
  · split
    · exact invariant.rejectObject _
    · refine invariant.bind invariant.advance fun _ => ?_
      refine invariant.bind invariant.current fun colon => ?_
      split
      · exact invariant.rejectObject _
      · refine invariant.bind invariant.advance fun _ => ?_
        refine invariant.bind invariant.current fun first => ?_
        split
        · exact invariant.rejectObject _
        · exact invariant.bind (within depth _ trivial) fun value => invariant.pure _

theorem restOfObject (depth : Nat) (done : Table Value) :
    Holds fun i =>
      Production.restOfObject (frame.vary (limits i) (calls i)) (again i) depth done := by
  refine invariant.bind invariant.current fun found => ?_
  cases found with
  | none => exact invariant.rejectObject _
  | some key =>
      refine invariant.bind (invariant.entry within depth done key) fun done => ?_
      refine invariant.bind invariant.current fun next => ?_
      split
      · exact invariant.bind invariant.advance fun _ => invariant.pure _
      · exact invariant.bind invariant.advance fun _ => within depth _ trivial
      · exact invariant.rejectObject _

theorem restOfArguments (depth : Nat) {callee : Callable} (done : List Value)
    (registered : ∃ name, frame.registry.function? name = some callee) :
    Holds fun i =>
      Production.restOfArguments (frame.vary (limits i) (calls i)) (again i) depth callee done := by
  refine invariant.bind invariant.current fun found => ?_
  split
  · refine invariant.bind invariant.advance fun _ => ?_
    exact invariant.bind invariant.position fun position =>
      invariant.invoke position callee _ registered
  · refine invariant.bind (within depth _ trivial) fun argument => ?_
    refine invariant.bind invariant.current fun next => ?_
    split
    · refine invariant.bind invariant.advance fun _ => ?_
      refine invariant.bind invariant.current fun last => ?_
      split
      · exact invariant.reject _
      · exact within depth _ registered
    · exact within depth _ registered

theorem step (depth : Nat) (production : Production)
    (admissible : production.Admissible frame.registry) :
    Holds fun i => Production.step (frame.vary (limits i) (calls i)) (again i) depth
      production := by
  cases production with
  | expression floor =>
      unfold Production.step
      refine invariant.nested depth fun inner => ?_
      exact invariant.bind (invariant.operand within inner) fun left => within inner _ trivial
  | unary token => exact invariant.unaryOrFactor within depth token
  | tail left floor => exact invariant.climb within depth left floor
  | elements done => exact invariant.restOfArray within depth done
  | entries done => exact invariant.restOfObject within depth done
  | arguments callee done => exact invariant.restOfArguments within depth done admissible

omit within in
theorem run (fuel depth : Nat) (production : Production)
    (admissible : production.Admissible frame.registry) :
    Holds fun i => Production.run (frame.vary (limits i) (calls i)) fuel depth production := by
  induction fuel generalizing depth production with
  | zero => exact invariant.exhausted
  | succ fuel ih => exact invariant.step ih depth production admissible

omit within in
theorem expression (depth : Nat) (floor : Precedence) :
    Holds fun i => Frame.expression (frame.vary (limits i) (calls i)) depth floor :=
  invariant.run (fuelFor frame.tokens.size) depth (.expression floor) trivial

omit within in
theorem formula : Holds fun i => Frame.formula (frame.vary (limits i) (calls i)) := by
  refine invariant.bind (invariant.expression 0 0) fun value => ?_
  refine invariant.bind invariant.current fun found => ?_
  cases found with
  | none => exact invariant.pure value
  | some trailing => exact invariant.reject _

end Invariant

end Reckon
