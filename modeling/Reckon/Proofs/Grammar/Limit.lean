import Reckon.Proofs.Grammar.Families

/-!
The nesting limit.  A looser limit, or none, changes no outcome but the error that reports the
tighter one.
-/

namespace Reckon

open Parse Production

def Looser (limit : Nat) : Option Nat → Prop
  | none => True
  | some other => limit ≤ other

variable {α : Type} (limit : Nat)

/-- The readings under a limit and under a looser one are the same, or the limit was exceeded. -/
def SameUnlessTooDeep (readers : Bool → Parse α) : Prop :=
  ∀ position, readers true position = readers false position ∨
    (readers true position).1 = .error (.raised (.nestingTooDeep limit))

variable {limit} (frame : Frame) {looser : Option Nat}
  (calls : Bool → Nat → Callable → List Value → Outcome)

theorem sameUnlessTooDeep_invariant (wider : Looser limit looser)
    (same : ∀ name callee, frame.registry.function? name = some callee → ∀ position arguments,
      calls true position callee arguments = calls false position callee arguments ∨
        calls true position callee arguments = .error (.raised (.nestingTooDeep limit))) :
    Invariant frame (fun tight => if tight then some limit else looser) calls
      (SameUnlessTooDeep limit) where
  settled reader _ := fun position => .inl rfl
  exhausted := fun position => .inl rfl
  bind := by
    intro α β first next before after position
    change (first true >>= next true) position = (first false >>= next false) position ∨
      ((first true >>= next true) position).1 = .error (.raised (.nestingTooDeep limit))
    rcases before position with equal | deep
    · rcases read : first false position with ⟨fault | value, reached⟩
      · exact .inl (by rw [bind_of_error read, bind_of_error (equal.trans read)])
      · rw [bind_of_ok read, bind_of_ok (equal.trans read)]
        exact after value reached
    · right
      rcases read : first true position with ⟨fault | value, reached⟩
      · rw [bind_of_error read]
        simpa [read] using deep
      · simp [read] at deep
  nested := by
    intro depth inner within position
    by_cases deep : limit < depth + 1
    · right
      simp [nested, Frame.vary, deep]
    · have wide : nested (frame.vary looser (calls false)) depth (inner false) =
          inner false (depth + 1) := by
        cases looser with
        | none => rfl
        | some other =>
            have : ¬other < depth + 1 := by
              have : limit ≤ other := wider
              omega
            simp [nested, Frame.vary, this]
      have tight : nested (frame.vary (some limit) (calls true)) depth (inner true) =
          inner true (depth + 1) := by
        simp [nested, Frame.vary, deep]
      simpa [tight, wide] using within (depth + 1) position
  operated _ := fun position => .inl rfl
  invoke := by
    rintro position callee arguments ⟨name, registered⟩ start
    rcases same name callee registered position arguments with equal | deep
    · exact .inl (by simp [equal])
    · exact .inr (by simp [deep])

section

variable {frame} (limited : frame.limit = some limit) (wider : Looser limit looser)

include limited

theorem Frame.vary_limited : frame.vary (some limit) frame.invoke = frame := by
  rw [← limited]
  rfl

include wider

/-- A limit changes where and how an expression ends only to the error that reports it. -/
theorem Frame.expression_eq_or_tooDeep (depth : Nat) (floor : Precedence) (position : Nat) :
    frame.expression depth floor position =
        (frame.vary looser frame.invoke).expression depth floor position ∨
      (frame.expression depth floor position).1 = .error (.raised (.nestingTooDeep limit)) := by
  have invariant := sameUnlessTooDeep_invariant frame (fun _ => frame.invoke) wider
    fun _ _ _ _ _ => .inl rfl
  simpa only [if_true, Bool.false_eq_true, if_false, Frame.vary_limited limited] using
    invariant.expression depth floor position

theorem Frame.outcome_eq_or_tooDeep :
    frame.outcome = (frame.vary looser frame.invoke).outcome ∨
      frame.outcome = Outcome.raise (.nestingTooDeep limit) := by
  have invariant := sameUnlessTooDeep_invariant frame (fun _ => frame.invoke) wider
    fun _ _ _ _ _ => .inl rfl
  have both := invariant.formula 0
  simp only [if_true, Frame.vary_limited limited] at both
  rcases both with same | deep
  · exact .inl (congrArg Prod.fst same)
  · exact .inr deep

end

end Reckon
