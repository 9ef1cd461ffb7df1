import Reckon.Proofs.Grammar.Parse

/-!
The names that tokens look up.  Nothing else in the bindings matters to what is read.
-/

namespace Reckon

/-- A token looks up itself or, as a path, its first segment. -/
def Path.LooksUp (token name : String) : Prop :=
  name = token ∨ (segments token).head? = some name

instance (token name : String) : Decidable (Path.LooksUp token name) :=
  inferInstanceAs (Decidable (_ ∨ _))

/-- A token mentions what it looks up, and what its operand does if it is spread. -/
def Grammar.Mentions (token name : String) : Prop :=
  Path.LooksUp token name ∨
    ∃ operand, spreadOperand? token = some operand ∧ Path.LooksUp operand name

instance (token name : String) : Decidable (Grammar.Mentions token name) :=
  inferInstanceAs (Decidable (_ ∨ _))

/-- Bindings that bind some names alike, or both not. -/
def Table.AgreeOn (names : String → Prop) (first second : Table Value) : Prop :=
  ∀ name, names name → get? first name = get? second name

def Frame.against (frame : Frame) (bindings : Table Value)
    (invoke : Nat → Callable → List Value → Outcome) : Frame :=
  { frame with bindings, invoke }

section

variable {first second : Table Value} {token : String}
  (agree : Table.AgreeOn (Path.LooksUp token) first second)

include agree

theorem Grammar.lookup_congr : lookup first token = lookup second token := by
  unfold lookup
  rw [agree token (.inl rfl)]

theorem Path.resolve_congr : resolve first token = resolve second token := by
  unfold resolve
  rcases split : segments token with _ | ⟨root, rest⟩
  · rfl
  · have same := agree root (.inr (by rw [split]; rfl))
    simp only [same]

end

open Grammar Parse Production

section

variable (frame : Frame) (bindings : Table Value) (invoke : Nat → Callable → List Value → Outcome)

@[simp]
theorem Frame.against_bindings : (frame.against bindings invoke).bindings = bindings := rfl

@[simp]
theorem Frame.against_registry : (frame.against bindings invoke).registry = frame.registry := rfl

@[simp]
theorem Parse.current_against :
    current (frame.against bindings invoke) = current frame := rfl

@[simp]
theorem Parse.expect_against (token : String) :
    expect (frame.against bindings invoke) token = expect frame token := rfl

@[simp]
theorem Production.nested_against (depth : Nat) (inner : Nat → Parse Value) :
    nested (frame.against bindings invoke) depth inner = nested frame depth inner := rfl

/-- Bindings and calls with which the tokens of a frame are read alike. -/
structure Frame.Alike : Prop where
  bound : ∀ token ∈ frame.tokens, Table.AgreeOn (Mentions token) bindings frame.bindings
  call : ∀ name callee, frame.registry.function? name = some callee → ∀ position arguments,
    invoke position callee arguments = frame.invoke position callee arguments

/-- What a production looks up is bound alike, and what it calls is registered. -/
def Production.Agrees : Production → Prop
  | .unary token => Table.AgreeOn (Path.LooksUp token) bindings frame.bindings
  | .arguments callee _ => ∃ name, frame.registry.function? name = some callee
  | _ => True

end

namespace Frame.Alike

variable {frame : Frame} {bindings : Table Value}
  {invoke : Nat → Callable → List Value → Outcome} {again twin : Nat → Production → Parse Value}
  (alike : frame.Alike bindings invoke)
  (same : ∀ depth production, production.Agrees frame bindings →
    twin depth production = again depth production) (depth : Nat)

section

include alike

theorem token {position : Nat} {token : String} (here : frame.tokens[position]? = some token) :
    Table.AgreeOn (Path.LooksUp token) bindings frame.bindings := by
  intro name looked
  exact alike.bound token (Array.mem_of_getElem? here) name (.inl looked)

theorem operand {position : Nat} {key token : String}
    (here : frame.tokens[position]? = some key) (spread : spreadOperand? key = some token) :
    Table.AgreeOn (Path.LooksUp token) bindings frame.bindings := by
  intro name looked
  exact alike.bound key (Array.mem_of_getElem? here) name (.inr ⟨token, spread, looked⟩)

end

include same

section

variable {token : String}
  (agree : Table.AgreeOn (Path.LooksUp token) bindings frame.bindings)

theorem callOf {name : String} {callee : Callable}
    (registered : frame.registry.function? name = some callee) :
    Production.callOf (frame.against bindings invoke) twin depth callee =
      Production.callOf frame again depth callee := by
  unfold Production.callOf
  rw [same depth (.arguments callee []) ⟨name, registered⟩, expect_against]

include agree

omit same in
theorem name :
    Production.name (frame.against bindings invoke) token = Production.name frame token := by
  unfold Production.name
  rw [against_bindings, lookup_congr agree, current_against]

theorem factor :
    Production.factor (frame.against bindings invoke) twin depth token =
      Production.factor frame again depth token := by
  unfold Production.factor
  rw [same depth (.expression 0) trivial, same depth (.elements []) trivial,
    same depth (.entries []) trivial, against_bindings, Path.resolve_congr agree, name agree,
    expect_against, against_registry]
  cases registered : frame.registry.function? token with
  | none => rfl
  | some callee => simp only [callOf same depth registered]

end

include alike

theorem readOperand :
    Production.operand (frame.against bindings invoke) twin depth =
      Production.operand frame again depth := by
  unfold Production.operand
  rw [current_against]
  funext position
  rw [current_bind, current_bind]
  cases here : frame.tokens[position]? with
  | none => rfl
  | some token => exact congrFun (same depth (.unary token) (alike.token here)) position

theorem unaryOrFactor {token : String}
    (agree : Table.AgreeOn (Path.LooksUp token) bindings frame.bindings) :
    Production.unaryOrFactor (frame.against bindings invoke) twin depth token =
      Production.unaryOrFactor frame again depth token := by
  unfold Production.unaryOrFactor
  rw [against_registry, factor same depth agree]
  simp only [nested_against, alike.readOperand same]

theorem entry (done : Table Value) {key : String} {position : Nat}
    (here : frame.tokens[position]? = some key) :
    Production.entry (frame.against bindings invoke) twin depth done key =
      Production.entry frame again depth done key := by
  unfold Production.entry
  rw [current_against, same depth (.expression 0) trivial]
  cases spread : spreadOperand? key with
  | none => rfl
  | some token =>
      have first := fun inner => same inner (.unary token) (alike.operand here spread)
      have rest := fun inner left => same inner (.tail left 0) trivial
      simp only [nested_against, first, rest]

theorem restOfObject (done : Table Value) :
    Production.restOfObject (frame.against bindings invoke) twin depth done =
      Production.restOfObject frame again depth done := by
  unfold Production.restOfObject
  have rest := fun done => same depth (.entries done) trivial
  simp only [current_against, rest]
  funext position
  rw [current_bind, current_bind]
  cases here : frame.tokens[position]? with
  | none => rfl
  | some key => simp only [alike.entry same depth done here]

theorem restOfArguments {callee : Callable} (done : List Value)
    (registered : ∃ name, frame.registry.function? name = some callee) :
    Production.restOfArguments (frame.against bindings invoke) twin depth callee done =
      Production.restOfArguments frame again depth callee done := by
  unfold Production.restOfArguments
  have rest := fun done => same depth (.arguments callee done) registered
  obtain ⟨name, found⟩ := registered
  have called : (frame.against bindings invoke).invoke = invoke := rfl
  simp only [current_against, rest, same depth (.expression 0) trivial, called,
    alike.call name callee found]

theorem step (production : Production) (agrees : production.Agrees frame bindings) :
    Production.step (frame.against bindings invoke) twin depth production =
      Production.step frame again depth production := by
  have expression := fun floor => same depth (.expression floor) trivial
  have tail := fun depth left floor => same depth (.tail left floor) trivial
  have elements := fun done => same depth (.elements done) trivial
  cases production with
  | expression floor =>
      simp only [Production.step, nested_against, alike.readOperand same, tail]
  | unary token => exact alike.unaryOrFactor same depth agrees
  | tail left floor =>
      simp only [Production.step, climb, current_against, against_registry, expression, tail]
  | elements done =>
      simp only [Production.step, restOfArray, current_against, expression, elements]
  | entries done => exact alike.restOfObject same depth done
  | arguments callee done => exact alike.restOfArguments same depth done agrees

omit same in
theorem run (fuel : Nat) (production : Production) (agrees : production.Agrees frame bindings) :
    Production.run (frame.against bindings invoke) fuel depth production =
      Production.run frame fuel depth production := by
  induction fuel generalizing depth production with
  | zero => rfl
  | succ fuel ih => exact alike.step ih depth production agrees

omit same in
/-- A frame has the same outcome against bindings that agree on what its tokens mention. -/
theorem outcome : (frame.against bindings invoke).outcome = frame.outcome := by
  have expression : (frame.against bindings invoke).expression 0 0 = frame.expression 0 0 :=
    alike.run 0 (fuelFor frame.tokens.size) (.expression 0) trivial
  unfold Frame.outcome Frame.formula
  rw [expression, current_against]

end Frame.Alike

end Reckon
