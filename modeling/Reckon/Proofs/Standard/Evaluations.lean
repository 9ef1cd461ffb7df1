import Reckon.Proofs.Engine.Inquiry
import Reckon.Proofs.Standard.Sequences

/-!
The standard functions wait for nothing but the evaluations that they ask for.
-/

namespace Reckon

theorem Registry.Sequences.consults {registry : Registry} (sequences : registry.Sequences) :
    registry.Consults := by
  have sequential : Sequential fun result : Answers → Except Fault _ => Reckon.Consults result := {
    settled := fun ordinary => .settled ordinary.1
    bind := fun first rest => first.bind rest }
  intro name callee found calls asks arguments
  exact sequences Answers _ sequential name callee found calls asks arguments

theorem Standard.consults (clock : Calendar.Moment) : (registry clock).Consults :=
  (sequences clock).consults

end Reckon
