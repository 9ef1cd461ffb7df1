import Reckon.Grammar

/-!
Equations of readers of tokens: what each combinator does at a position.
-/

namespace Reckon

namespace Outcome

variable {ε α β : Type}

@[simp]
theorem ok_bind (value : α) (next : α → Except ε β) : (Except.ok value >>= next) = next value := rfl

@[simp]
theorem error_bind (fault : ε) (next : α → Except ε β) :
    (Except.error fault >>= next) = Except.error fault := rfl

@[simp]
theorem bind_ok (result : Except ε α) : (result >>= Except.ok) = result := by
  cases result <;> rfl

@[simp]
theorem pure_eq (value : α) : (pure value : Except ε α) = Except.ok value := rfl

@[simp]
theorem map_eq (change : α → β) (result : Except ε α) :
    result.map change = (result >>= fun value => Except.ok (change value)) := by
  cases result <;> rfl

end Outcome

namespace Parse

variable {α β γ : Type}

theorem bind_of_ok {first : Parse α} {next : α → Parse β} {position reached : Nat} {value : α}
    (read : first position = (.ok value, reached)) :
    (first >>= next) position = next value reached := by
  simp only [Bind.bind, read]

theorem bind_of_error {first : Parse α} {next : α → Parse β} {position reached : Nat}
    {fault : Fault} (read : first position = (.error fault, reached)) :
    (first >>= next) position = (.error fault, reached) := by
  simp only [Bind.bind, read]

/-- A reader in sequence with another ends where the first one fails, or where the second one does
after it. -/
theorem bind_cases (first : Parse α) (next : α → Parse β) (position : Nat) :
    (∃ fault reached, first position = (.error fault, reached) ∧
        (first >>= next) position = (.error fault, reached)) ∨
      ∃ value reached, first position = (.ok value, reached) ∧
        (first >>= next) position = next value reached := by
  rcases read : first position with ⟨value | fault, reached⟩
  · exact .inl ⟨_, _, rfl, bind_of_error read⟩
  · exact .inr ⟨_, _, rfl, bind_of_ok read⟩

@[simp]
theorem pure_apply (value : α) (position : Nat) :
    (pure value : Parse α) position = (.ok value, position) := rfl

@[simp]
theorem fail_apply (error : Error) (position : Nat) :
    (fail error : Parse α) position = (.error (.raised error), position) := rfl

@[simp]
theorem lift_apply (result : Except Fault α) (position : Nat) :
    lift result position = (result, position) := rfl

@[simp]
theorem current_bind (frame : Frame) (next : Option String → Parse β) (position : Nat) :
    (current frame >>= next) position = next frame.tokens[position]? position := rfl

@[simp]
theorem advance_bind (next : Unit → Parse β) (position : Nat) :
    (advance >>= next) position = next () (position + 1) := rfl

@[simp]
theorem position_bind (next : Nat → Parse β) (position : Nat) :
    (Parse.position >>= next) position = next position position := rfl

@[simp]
theorem bind_assoc_apply (first : Parse α) (second : α → Parse β) (third : β → Parse γ)
    (position : Nat) :
    ((first >>= second) >>= third) position =
      (first >>= fun value => second value >>= third) position := by
  rcases bind_cases first second position with ⟨fault, reached, read, both⟩ |
    ⟨value, reached, read, both⟩
  · rw [bind_of_error both, bind_of_error read]
  · rw [bind_of_ok read]
    rcases next : second value reached with ⟨fault | found, last⟩
    · rw [bind_of_error (both.trans next), bind_of_error next]
    · rw [bind_of_ok (both.trans next), bind_of_ok next]

@[simp]
theorem expect_bind (frame : Frame) (token : String) (next : Unit → Parse β) (position : Nat) :
    (expect frame token >>= next) position =
      if frame.tokens[position]? = some token then next () (position + 1)
      else (.error (.raised (.invalidExpression frame.tokens[position]?)), position) := by
  unfold expect
  rw [bind_assoc_apply, current_bind]
  split <;> rfl

/-- Where a reader ends and with which value, or its fault; the position of a fault is forgotten. -/
def ended (reader : Parse α) (position : Nat) : Except Fault (α × Nat) :=
  match reader position with
  | (.ok value, reached) => .ok (value, reached)
  | (.error fault, _) => .error fault

theorem fst_eq_ended (reader : Parse α) (position : Nat) :
    (reader position).1 = (ended reader position >>= fun found => .ok found.1) := by
  unfold ended
  rcases reader position with ⟨fault | value, reached⟩ <;> rfl

@[simp]
theorem ended_pure (value : α) (position : Nat) :
    ended (pure value) position = .ok (value, position) := rfl

@[simp]
theorem ended_fail (error : Error) (position : Nat) :
    ended (fail error : Parse α) position = .error (.raised error) := rfl

@[simp]
theorem ended_bind (first : Parse α) (next : α → Parse β) (position : Nat) :
    ended (first >>= next) position =
      ended first position >>= fun found => ended (next found.1) found.2 := by
  unfold ended
  rcases bind_cases first next position with ⟨fault, reached, read, both⟩ |
    ⟨value, reached, read, both⟩
  · rw [both, read]
    rfl
  · rw [both, read]
    rfl

@[simp]
theorem ended_current (frame : Frame) (position : Nat) :
    ended (current frame) position = .ok (frame.tokens[position]?, position) := rfl

@[simp]
theorem ended_advance (position : Nat) : ended advance position = .ok ((), position + 1) := rfl

@[simp]
theorem ended_position (position : Nat) :
    ended Parse.position position = .ok (position, position) := rfl

@[simp]
theorem ended_lift (result : Except Fault α) (position : Nat) :
    ended (lift result) position = result.map (·, position) := by
  cases result <;> rfl

@[simp]
theorem ended_liftError (result : Except Error Value) (position : Nat) :
    ended (liftError result) position = (Outcome.ofExcept result).map (·, position) := by
  cases result <;> rfl

@[simp]
theorem ended_expect (frame : Frame) (token : String) (position : Nat) :
    ended (expect frame token) position =
      if frame.tokens[position]? = some token then .ok ((), position + 1)
      else .error (.raised (.invalidExpression frame.tokens[position]?)) := by
  unfold expect ended
  rw [current_bind]
  by_cases found : frame.tokens[position]? = some token
  · simp [found, advance]
  · simp [found]

end Parse

namespace Production

open Parse

variable (frame : Frame)

theorem run_succ (fuel depth : Nat) (production : Production) :
    run frame (fuel + 1) depth production = step frame (run frame fuel) depth production := rfl

end Production

theorem Frame.outcome_eq_bind (frame : Frame) :
    frame.outcome = Parse.ended (frame.expression 0 0) 0 >>= fun found =>
      match frame.tokens[found.2]? with
      | none => .ok found.1
      | some trailing => .error (.raised (.invalidExpression (some trailing))) := by
  unfold Frame.outcome Frame.formula
  rw [Parse.fst_eq_ended, Parse.ended_bind, bind_assoc]
  congr 1
  funext found
  cases trailing : frame.tokens[found.2]? <;> simp [trailing]

end Reckon
