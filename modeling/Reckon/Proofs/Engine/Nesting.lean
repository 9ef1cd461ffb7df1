import Reckon.Proofs.Engine.Limits
import Reckon.Proofs.Formula.Nesting
import Reckon.Proofs.Formula.Row
import Reckon.Standard

/-!
What a limit on nesting measures.  Under it a formula has its value exactly as far as the limit
allows the depth of its outline.
-/

namespace Reckon

open Formula Outcome Parse Production

/-- Functions that start no evaluations: what these would come to makes no difference to them. -/
def Registry.EvaluatesNothing (registry : Registry) : Prop :=
  ∀ name callee, registry.function? name = some callee →
    ∀ (call : Call) evaluate restart arguments,
      callee { call with evaluate, restart } arguments = callee call arguments

theorem Frame.outcome_of_value {frame : Frame} {value : Value} {reached : Nat}
    (read : frame.expression 0 0 0 = (.ok value, reached))
    (ends : frame.tokens[reached]? = none) : frame.outcome = .ok value := by
  rw [Frame.outcome_eq_bind, ended, read]
  simp [ends]

theorem Frame.outcome_of_fault {frame : Frame} {fault : Fault}
    (failed : (frame.expression 0 0 0).1 = .error fault) : frame.outcome = .error fault := by
  rcases read : frame.expression 0 0 0 with ⟨result, reached⟩
  obtain rfl : result = .error fault := by simpa [read] using failed
  rw [Frame.outcome_eq_bind, ended, read]
  rfl

/-- All tokens under a limit, where without one they have a value. -/
theorem Frame.outcome_of_outlined {frame : Frame} {limit : Nat}
    {invoke : Nat → Callable → List Value → Outcome} (unlimited : frame.limit = none)
    (same : ∀ name callee, frame.registry.function? name = some callee → ∀ position arguments,
      invoke position callee arguments = frame.invoke position callee arguments)
    {value : Value} (valued : frame.outcome = .ok value) {outline : Outline}
    (outlined : Outlined frame.registry frame.tokens (.expression 0) [outline] 0
      frame.tokens.size) :
    (frame.vary (some limit) invoke).outcome =
      if outline.depth ≤ limit then .ok value else raise (.nestingTooDeep limit) := by
  have capped : Capped limit (0 + Outline.deepest [outline]) (frame.expression 0 0)
      ((frame.vary (some limit) invoke).expression 0 0) 0 frame.tokens.size :=
    outlined.capped unlimited same (fuelFor frame.tokens.size) 0 (Nat.zero_le limit)
  rw [Nat.zero_add, Outline.deepest_single] at capped
  rcases read : frame.expression 0 0 0 with ⟨fault | found, reached⟩
  · have failed := Frame.outcome_of_fault (congrArg Prod.fst read)
    cases valued.symm.trans failed
  · obtain ⟨fits, exceeds⟩ := capped found reached read
    split
    · rename_i room
      obtain ⟨rfl, tight⟩ := fits room
      have ends : frame.tokens[frame.tokens.size]? = none := by simp
      rw [← valued, Frame.outcome_of_value read ends]
      exact Frame.outcome_of_value tight ends
    · rename_i deep
      exact Frame.outcome_of_fault (exceeds (Nat.not_le.mp deep))

namespace Engine

variable {engine : Engine} {levels : Nat} {site : List Nat} {text : String}
  {bindings : Table Value} {value : Value}

/-- Where the functions of an engine start no evaluations, a text with a value has it under exactly
the limits that allow the depth of its outline, and exceeds the others.  Parts side by side do not
add up: what stands in brackets takes the levels of one of its members, and an expression one level
more than its leading factor or one of its operands. -/
theorem evaluateIn_of_depth (nothing : engine.registry.EvaluatesNothing)
    (valued : (engine.limitedTo none).evaluateIn levels site text bindings = .ok value) :
    let tokens := (engine.tokens text).toArray
    let Outlines := fun outline =>
      Outlined engine.registry tokens (.expression 0) [outline] 0 tokens.size
    (∃ outline, Outlines outline) ∧
      (∀ outline, Outlines outline → ∀ limit,
        (engine.limitedTo (some limit)).evaluateIn levels site text bindings =
          if outline.depth ≤ limit then .ok value else raise (.nestingTooDeep limit)) ∧
      (∀ inside, inside ≠ [] →
        ∃ member ∈ inside, (Outline.brackets inside).depth = member.depth) ∧
      ∀ first operands, ∃ member ∈ first :: operands,
        (Outline.expression first operands).depth = member.depth + 1 := by
  intro tokens Outlines
  cases levels with
  | zero => cases valued
  | succ levels =>
      have unlimited : ((engine.limitedTo none).frame levels site tokens bindings).limit = none :=
        rfl
      refine ⟨?_, ?_, ?_, ?_⟩
      · obtain ⟨formula, derived, -⟩ := Frame.worth_of_outcome unlimited valued
        obtain ⟨outlines, outlined⟩ := derived.outlined
        obtain ⟨outline, rfl⟩ := outlined.single_expression
        exact ⟨outline, outlined⟩
      · intro outline outlined limit
        let call := (engine.limitedTo (some limit)).call levels site tokens bindings
        refine @Frame.outcome_of_outlined _ limit (fun position callee => callee (call position))
          unlimited ?_ _ valued outline outlined
        intro name callee registered position arguments
        exact nothing name callee registered
          ((engine.limitedTo none).call levels site tokens bindings position) _ _ arguments
      · intro inside nonempty
        obtain ⟨member, among, same⟩ := Outline.exists_depth_eq_deepest nonempty
        exact ⟨member, among, same.symm⟩
      · intro first operands
        obtain ⟨member, among, same⟩ :=
          Outline.exists_depth_eq_deepest (List.cons_ne_nil first operands)
        exact ⟨member, among, congrArg Nat.succ same.symm⟩

def operating : Engine :=
  core.configure Standard.withOperators

/-- A unary operator in an array in an object takes four levels, and the spread entry beside it none
in addition. -/
theorem evaluateIn_of_depth_four :
    let text := "\x7b ...a, b: [!true] \x7d"
    let bindings : Table Value := [("a", .object [("b", .null)])]
    let value : Value := .object [("b", .array [.boolean false])]
    operating.registry.EvaluatesNothing ∧
      (operating.limitedTo none).evaluateIn 1 [] text bindings = .ok value ∧
      ∀ limit, (operating.limitedTo (some limit)).evaluateIn 1 [] text bindings =
        if 4 ≤ limit then .ok value else raise (.nestingTooDeep limit) := by
  intro text bindings value
  have nothing : operating.registry.EvaluatesNothing := nofun
  have valued : (operating.limitedTo none).evaluateIn 1 [] text bindings = .ok value := by
    simp only [text, bindings, value]
    rfl
  let tokens : Array String := #["\x7b", "...a", ",", "b", ":", "[", "!", "true", "]", "\x7d"]
  have lexed : operating.tokens text =
      ["\x7b", "...a", ",", "b", ":", "[", "!", "true", "]", "\x7d"] := by
    simp only [text]
    decide +kernel
  have loose : ∀ position, position = 2 ∨ position = 8 ∨ position = 9 ∨ position = 10 →
      Loose operating.registry tokens 0 position := by
    rintro _ (rfl | rfl | rfl | rfl) symbol ⟨⟩ <;> exact .inl rfl
  have literal : role operating.registry "true" = .literal (.boolean true) := rfl
  have bracket : role operating.registry "[" = .array := rfl
  have brace : role operating.registry "\x7b" = .object := rfl
  have name : role operating.registry "a" = .name := rfl
  have marked : Grammar.spreadOperand? "...a" = some "a" := rfl
  have negated : Outlined operating.registry tokens (.expression 0)
      [.expression (.unary .plain) []] 6 8 :=
    .expression rfl (.unaryOperator rfl rfl (.literal literal)) (.loose (loose 8 (by simp)))
  have array : Outlined operating.registry tokens (.expression 0)
      [.expression (.brackets [.expression (.unary .plain) []]) []] 5 9 :=
    .expression rfl
      (.array bracket (.element (by decide) negated (.inr ⟨rfl, rfl⟩) (.lastElement rfl)))
      (.loose (loose 9 (by simp)))
  have spread : Outlined operating.registry tokens .entry [.expression .plain []] 1 2 :=
    .spread rfl marked (.name name) (.loose (loose 2 (by simp)))
  have key : tokens[3]? = some "b" := rfl
  have keyed : Outlined operating.registry tokens .entry
      [.expression (.brackets [.expression (.unary .plain) []]) []] 3 9 :=
    .keyed key rfl rfl rfl ⟨_, rfl, by decide, by decide⟩ array
  have whole : Outlined operating.registry tokens (.expression 0) [.expression (.brackets
      [.expression .plain [], .expression (.brackets [.expression (.unary .plain) []]) []]) []] 0
      10 :=
    .expression rfl (.object brace (.moreEntries spread rfl (.lastEntry keyed rfl)))
      (.loose (loose 10 (by simp)))
  obtain ⟨-, measured, -⟩ := evaluateIn_of_depth nothing valued
  rw [lexed] at measured
  exact ⟨nothing, valued, fun limit => measured _ whole limit⟩

end Engine

end Reckon
