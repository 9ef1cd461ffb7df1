import Reckon.Proofs.Engine.Nesting
import Reckon.Proofs.Grammar.Objects

/-!
Object literals in an evaluation: what they come to, as a factor anywhere in a text and as the whole
of it.
-/

namespace Reckon

open Outcome Parse Production

namespace Frame

variable {frame : Frame} {depth : Nat}

/-- All the tokens, where the limit allows an expression, are an operand and the operators behind
it. -/
theorem expression_eq_operand (allows : frame.Allows 1) :
    frame.expression 0 0 0 =
      (operand frame frame.production 1 >>= fun left => frame.production 1 (.tail left 0)) 0 := by
  have readable : (Production.expression 0).ReadableAt frame 0 := trivial
  change frame.production 0 (.expression 0) 0 = _
  rw [production_eq_step 0 readable, step, allows.nested_eq]

theorem outcome_of_operand {value : Value}
    (allows : frame.Allows 1)
    (read : operand frame frame.production 1 0 = (.ok value, frame.tokens.size)) :
    frame.outcome = .ok value := by
  have ends : frame.tokens[frame.tokens.size]? = none := by simp
  have readable : (Production.tail value 0).ReadableAt frame frame.tokens.size := trivial
  have tail : frame.production 1 (.tail value 0) frame.tokens.size =
      (.ok value, frame.tokens.size) := by
    rw [production_eq_step 1 readable, step, climb, current_bind, ends]
    rfl
  have whole := expression_eq_operand allows
  rw [bind_of_ok read, tail] at whole
  exact outcome_of_value whole ends

theorem outcome_of_operand_fault {fault : Fault} {reached : Nat}
    (allows : frame.Allows 1)
    (read : operand frame frame.production 1 0 = (.error fault, reached)) :
    frame.outcome = .error fault := by
  have whole := expression_eq_operand allows
  rw [bind_of_error read] at whole
  exact outcome_of_fault (congrArg Prod.fst whole)

end Frame

namespace Engine

/-- An object literal, wherever it stands, whose expressions have values and whose operands may be
spread, has each key at the place where it is written first with the value that is written last.  An
operand that may not be spread ends the literal with an error at its token, and nothing behind it is
read.  Both hold of a text that is nothing but the literal, too. -/
theorem evaluateIn_of_object {engine : Engine}
    (unclaimed : engine.registry.unaryOperator? "\x7b" = none) (levels : Nat) (site : List Nat)
    (text : String) (bindings : Table Value) {depth start middle : Nat}
    {written : List (String × Value)} :
    let frame := engine.frame levels site (engine.tokens text).toArray bindings
    let literal := operand frame frame.production depth start
    let outcome := engine.evaluateIn (levels + 1) site text bindings
    frame.tokens[start]? = some "\x7b" → frame.EntriesAt depth written (start + 1) middle →
      (∀ last entries stop, frame.EntryAt depth last middle stop → last.Writes entries →
        frame.tokens[stop]? = some "\x7d" →
          let object := .object (Table.settled (written ++ entries))
          literal = (.ok object, stop + 1) ∧
            (depth = 1 → start = 0 → stop + 1 = frame.tokens.size → outcome = .ok object)) ∧
      ∀ token value stop, frame.EntryAt depth (.spread token value) middle stop →
        (∀ entries, ¬(EntryValue.spread token value).Writes entries) →
          literal = (.error (.raised (.invalidObject (some token))), stop) ∧
            (depth = 1 → start = 0 → outcome = raise (.invalidObject (some token))) := by
  intro frame literal outcome opened before
  have braced : literal = _ := Frame.operand_of_brace opened unclaimed
  refine ⟨?_, ?_⟩
  · intro last entries stop found writes closed object
    have valued : literal = (.ok object, stop + 1) :=
      braced.trans (before.object_of_last found writes closed)
    refine ⟨valued, ?_⟩
    rintro rfl rfl whole
    rw [whole] at valued
    exact Frame.outcome_of_operand (found.allows.of_le (Nat.le_succ 1)) valued
  · intro token value stop found refused
    have failed : literal = (.error (.raised (.invalidObject (some token))), stop) :=
      braced.trans (before.refused found refused)
    refine ⟨failed, ?_⟩
    rintro rfl rfl
    exact Frame.outcome_of_operand_fault (found.allows.of_le (Nat.le_succ 1)) failed

/-- An object, an array and a value that may not be spread. -/
def spreadables : Table Value :=
  [("m", .object [("b", .null), ("a", .boolean false)]), ("l", .array [.null]),
    ("n", .boolean true)]

/-- A spread object overwrites the key before it, which keeps its place; a spread boolean behind a
spread array is refused before the unbound name behind it is looked up. -/
theorem evaluateIn_of_object_merged :
    operating.registry.unaryOperator? "\x7b" = none ∧
      operating.evaluateIn 1 [] "\x7b a: true, ...m \x7d" spreadables =
        .ok (.object [("a", .boolean false), ("b", .null)]) ∧
      operating.evaluateIn 1 [] "\x7b ...l, ...n, b: ghost \x7d" spreadables =
        raise (.invalidObject (some "...n")) := by
  have unclaimed : operating.registry.unaryOperator? "\x7b" = none := rfl
  refine ⟨unclaimed, ?_, ?_⟩
  · have lexed : operating.tokens "\x7b a: true, ...m \x7d" =
        ["\x7b", "a", ":", "true", ",", "...m", "\x7d"] := by decide +kernel
    have keyed : (operating.frame 0 [] #["\x7b", "a", ":", "true", ",", "...m", "\x7d"]
        spreadables).EntryAt 1 (.keyed "a" (.boolean true)) 1 4 :=
      .keyed rfl rfl rfl rfl ⟨"true", rfl, by decide, by decide⟩ rfl
    have spread : (operating.frame 0 [] #["\x7b", "a", ":", "true", ",", "...m", "\x7d"]
        spreadables).EntryAt 1
          (.spread "...m" (.object [("b", .null), ("a", .boolean false)])) 5 6 :=
      .spread rfl rfl rfl
    have whole := @evaluateIn_of_object _ unclaimed 0 [] "\x7b a: true, ...m \x7d" spreadables 1 0 5
    rw [lexed] at whole
    obtain ⟨merged, -⟩ := whole rfl (.cons keyed (.keyed ..) rfl .none)
    exact (merged _ _ _ spread (.object ..) rfl).2 rfl rfl rfl
  · have lexed : operating.tokens "\x7b ...l, ...n, b: ghost \x7d" =
        ["\x7b", "...l", ",", "...n", ",", "b", ":", "ghost", "\x7d"] := by decide +kernel
    have array : (operating.frame 0 [] #["\x7b", "...l", ",", "...n", ",", "b", ":", "ghost",
        "\x7d"] spreadables).EntryAt 1 (.spread "...l" (.array [.null])) 1 2 :=
      .spread rfl rfl rfl
    have flag : (operating.frame 0 [] #["\x7b", "...l", ",", "...n", ",", "b", ":", "ghost",
        "\x7d"] spreadables).EntryAt 1 (.spread "...n" (.boolean true)) 3 4 :=
      .spread rfl rfl rfl
    have whole := @evaluateIn_of_object _ unclaimed 0 [] "\x7b ...l, ...n, b: ghost \x7d"
      spreadables 1 0 3
    rw [lexed] at whole
    obtain ⟨-, refuses⟩ := whole rfl (.cons array (.array ..) rfl .none)
    exact (refuses _ _ _ flag nofun).2 rfl rfl

end Engine

end Reckon
