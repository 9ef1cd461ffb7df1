import Reckon.Error

/-!
What holds of a result: a property of its value, or one of its error.  Results in sequence pass
both on.
-/

namespace Reckon

/-- Errors of formulas are admitted ones; giving up always is. -/
def Fault.Raises (admits : Error → Prop) : Fault → Prop
  | .raised error => admits error
  | .unfinished => True

namespace Outcome

variable {ε α β : Type}

theorem bind_eq_ok_iff {first : Except ε α} {next : α → Except ε β} {value : β} :
    (first >>= next) = .ok value ↔ ∃ part, first = .ok part ∧ next part = .ok value := by
  constructor
  · intro whole
    cases first with
    | ok part => exact ⟨part, rfl, whole⟩
    | error fault => cases whole
  · rintro ⟨part, rfl, rest⟩
    exact rest

theorem map_eq_ok_iff {first : Except ε α} {change : α → β} {value : β} :
    first.map change = .ok value ↔ ∃ part, first = .ok part ∧ value = change part := by
  constructor
  · intro whole
    cases first with
    | ok part => exact ⟨part, rfl, (Except.ok.inj whole).symm⟩
    | error fault => cases whole
  · rintro ⟨part, rfl, rfl⟩
    rfl

/-- The value is a good one, or the error is an admitted one. -/
def Ends (good : α → Prop) (admits : ε → Prop) : Except ε α → Prop
  | .ok value => good value
  | .error error => admits error

variable {good : α → Prop} {better : β → Prop} {admits : ε → Prop}

theorem ends_bind {first : Except ε α} {next : α → Except ε β} (before : Ends good admits first)
    (after : ∀ value, good value → Ends better admits (next value)) :
    Ends better admits (first >>= next) := by
  cases first with
  | ok value => exact after value before
  | error error => exact before

theorem ends_map {first : Except ε α} {change : α → β} (before : Ends good admits first)
    (keeps : ∀ value, good value → better (change value)) :
    Ends better admits (first.map change) := by
  cases first with
  | ok value => exact keeps value before
  | error error => exact before

theorem Ends.mono {result : Except ε α} {other : α → Prop} {others : ε → Prop}
    (ends : Ends good admits result) (values : ∀ value, good value → other value)
    (errors : ∀ error, admits error → others error) : Ends other others result := by
  cases result with
  | ok value => exact values value ends
  | error error => exact errors error ends

theorem Ends.exists_error {result : Except ε α} (ends : Ends (fun _ => False) admits result) :
    ∃ error, result = .error error ∧ admits error := by
  cases result with
  | ok value => exact ends.elim
  | error error => exact ⟨error, rfl, ends⟩

end Outcome

end Reckon
