import Reckon.Proofs.Engine.Frame
import Reckon.Proofs.Standard.Hereditary

/-!
What engines make of bindings has each property that values share with their parts and that all
bindings have, where operators and functions keep it; and names that have a value there have one in
every evaluation inside the evaluation.
-/

namespace Reckon

open Outcome Value

def Error.Spares (bound : String → Prop) : Error → Prop
  | .missingVariable name => ¬bound name
  | _ => True

theorem Error.Refuses.spares {error : Error} (refuses : error.Refuses) (bound : String → Prop) :
    error.Spares bound := by
  cases error <;> trivial

/-- Bindings of good values, the given names among them. -/
structure Table.Supplies (good : Value → Prop) (bound : String → Prop) (bindings : Table Value) :
    Prop where
  holds : ∀ entry ∈ bindings, good entry.2
  named : ∀ name, bound name → (get? bindings name).isSome

namespace Table.Supplies

variable {good : Value → Prop} {bound : String → Prop} {bindings : Table Value}
  (supplies : Supplies good bound bindings)

include supplies

theorem insertAll {extra : Table Value} (further : ∀ entry ∈ extra, good entry.2) :
    Supplies good bound (Table.insertAll bindings extra) where
  holds := by
    intro entry member
    rcases mem_insertAll member with kept | added
    · exact supplies.holds entry kept
    · exact further entry added
  named := by
    intro name given
    rw [get?_insertAll, Option.isSome_or, supplies.named name given, Bool.or_true]

/-- A name that is bound has a value, unless it is bound to a getter that yields null. -/
theorem missing (asked : ∀ name, bound name → ∀ identity, ¬good (.getter identity .null))
    {name : String} {error : Error} (failed : Grammar.lookup bindings name = .error error) :
    error.Spares bound := by
  unfold Grammar.lookup at failed
  split at failed <;> cases failed
  · rename_i free
    intro given
    have present := supplies.named name given
    rw [free] at present
    cases present
  · rename_i identity found
    intro given
    exact asked name given identity (supplies.holds _ (mem_of_get? found))

end Table.Supplies

/-- Where operators and functions keep a hereditary property of the bindings, an evaluation gives a
value that has it, or ends with an error that is not about one of the names bound. -/
theorem Engine.evaluateIn_ends {engine : Engine} {good : Value → Prop} {bound : String → Prop}
    (hereditary : Hereditary good)
    (asked : ∀ name, bound name → ∀ identity, ¬good (.getter identity .null))
    (keeps : engine.registry.Keeps good (Error.Spares bound)) (levels : Nat) (site : List Nat)
    (text : String) {bindings : Table Value} (supplies : Table.Supplies good bound bindings) :
    Ends good (Fault.Raises (Error.Spares bound))
      (engine.evaluateIn levels site text bindings) := by
  -- bindings grow on the way into an evaluation, and what they supply stays
  induction levels generalizing site text bindings with
  | zero => trivial
  | succ levels ih =>
      have frame : (engine.frame levels site (engine.tokens text).toArray bindings).Keeps good
          (Error.Spares bound) := {
        hereditary
        bound := supplies.holds
        rejects := fun _ => trivial
        rejectsObject := fun _ => trivial
        limits := fun _ _ => trivial
        missing := fun _ _ failed => supplies.missing asked failed
        operators := keeps.toKeepsOperators
        invoke := by
          intro name callee registered position arguments holds
          refine keeps.function registered _ ?_ arguments holds
          intro turn inner extra further
          exact ih _ inner (supplies.insertAll further) }
      exact frame.outcome

/-- What a standard engine makes of bindings has each hereditary property that all of them have, if
the operators among its options keep it. -/
theorem Standard.evaluateIn_holds {clock : Calendar.Moment} {options : Options} {engine : Engine}
    (built : Engine.build (registry clock) options = .ok engine) {good : Value → Prop}
    (hereditary : Hereditary good)
    (own : ∀ entry ∈ options.unaryOperators, ∀ operand, good operand →
      Ends good (fun _ => True) (entry.2 operand)) {levels : Nat} {site : List Nat} {text : String}
    {bindings : Table Value} (holds : ∀ entry ∈ bindings, good entry.2) {value : Value}
    (evaluated : engine.evaluateIn levels site text bindings = .ok value) : good value := by
  have spares : ∀ error : Error, error.Spares fun _ => False := by
    intro error
    cases error with
    | missingVariable name => exact not_false
    | _ => trivial
  have keeps : engine.registry.Keeps good (Error.Spares fun _ => False) :=
    keeps_of_build hereditary built (fun error _ => spares error) fun entry member operand here =>
      (own entry member operand here).mono (fun _ => id) fun error _ => spares error
  have ends := Engine.evaluateIn_ends hereditary nofun keeps levels site text ⟨holds, nofun⟩
  rw [evaluated] at ends
  exact ends

/-- Without operators of its own a standard engine makes no getters and no host values, and no
object that has a key twice. -/
theorem Standard.evaluateIn_makes {clock : Calendar.Moment} {options : Options} {engine : Engine}
    (built : Engine.build (registry clock) options = .ok engine)
    (plain : options.unaryOperators = []) {levels : Nat} {site : List Nat} {text : String}
    {bindings : Table Value} {value : Value}
    (evaluated : engine.evaluateIn levels site text bindings = .ok value) :
    ((∀ entry ∈ bindings, GetterFree entry.2) → GetterFree value) ∧
      ((∀ entry ∈ bindings, HostFree entry.2) → HostFree value) ∧
      ((∀ entry ∈ bindings, WellFormed entry.2) → WellFormed value) := by
  have own : ∀ good : Value → Prop, ∀ entry ∈ options.unaryOperators, ∀ operand, good operand →
      Ends good (fun _ => True) (entry.2 operand) := by
    rw [plain]
    exact fun _ => nofun
  refine ⟨fun holds => ?_, fun holds => ?_, fun holds => ?_⟩
  · exact evaluateIn_holds built hereditary_getterFree (own _) holds evaluated
  · exact evaluateIn_holds built hereditary_hostFree (own _) holds evaluated
  · exact evaluateIn_holds built hereditary_wellFormed (own _) holds evaluated

end Reckon
