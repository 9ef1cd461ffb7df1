import Reckon.Proofs.Formula.Finished
import Reckon.Proofs.Grammar.Lookahead
import Reckon.Proofs.Standard.Calls

/-!
Where expressions end.  Every expression ends, behind the token with which it starts if it has a
value and never behind the last token, and nothing behind the token on which it ends matters to it.
-/

namespace Reckon

open Outcome Parse Production

theorem Formula.Reading.finished_ended {setting : Setting} (calls : setting.CallsFinish)
    {least : Nat} (reading : Reading Formula least) :
    Finished (reading.ended setting (evaluate setting)) := by
  cases reading with
  | error rejection => exact rejection.finished_outcome calls
  | ok span =>
      apply finished_bind (finished_evaluate calls span.part)
      intro value
      exact finished_ok _

/-- An expression ends wherever its calls do, be it limited or not. -/
theorem Frame.finished_expression (frame : Frame) (calls : frame.setting.CallsFinish) (depth : Nat)
    (floor : Precedence) (start : Nat) : Finished (frame.expression depth floor start).1 := by
  have unlimited : Finished ((frame.vary none frame.invoke).expression depth floor start).1 := by
    have enough : 3 * (frame.tokens.size - start) + 2 ≤ fuelFor frame.tokens.size := by
      unfold fuelFor
      omega
    have read : ended ((frame.vary none frame.invoke).expression depth floor) start = _ :=
      (Formula.agreesUpTo rfl _).expression depth floor start enough
    rw [fst_eq_ended, read]
    apply finished_bind (Formula.Reading.finished_ended calls _)
    intro found
    exact finished_ok found.1
  cases limited : frame.limit with
  | none =>
      have same : frame.vary none frame.invoke = frame := by
        rw [← limited]
        rfl
      exact same ▸ unlimited
  | some limit =>
      have wider : Looser limit none := trivial
      rcases Frame.expression_eq_or_tooDeep limited wider depth floor start with same | deep
      · rw [same]
        exact unlimited
      · rw [deep]
        exact finished_raised _

namespace Engine

/-- Where the functions of an engine return, each expression ends, at every depth and position of
any tokens, and more productions inside each other than the tokens need change nothing.  It ends
behind its start if it has a value, and within the tokens in any case.  All the while functions see
the tokens and the bindings with which it started: others that do the same on calls with these
tokens and bindings, behind the start and not behind the end, make no difference. -/
theorem expression_returns {engine : Engine} {levels : Nat} {site : List Nat}
    {tokens : Array String} {bindings : Table Value}
    (calls : ∀ name callee, engine.registry.function? name = some callee → ∀ position arguments,
      Finished (callee (engine.call levels site tokens bindings position) arguments))
    (depth : Nat) (floor : Precedence) {start : Nat} (inside : start ≤ tokens.size) :
    let frame := engine.frame levels site tokens bindings
    let reading := frame.expression depth floor start
    Finished reading.1 ∧
      (∀ fuel, fuelFor tokens.size ≤ fuel →
        run frame fuel depth (.expression floor) start = reading) ∧
      (∀ value, reading.1 = .ok value → start < reading.2) ∧
      start ≤ reading.2 ∧ reading.2 ≤ tokens.size ∧
      ∀ change : Callable → Callable,
        (∀ callee (call : Call), call.tokens = tokens → call.bindings = bindings →
          start < call.position → call.position ≤ reading.2 → change callee call = callee call) →
        (frame.over tokens fun position callee =>
          change callee (engine.call levels site tokens bindings position)).expression depth floor
            start = reading := by
  intro frame reading
  have proceeds := frame.expression_proceeds tokens frame.invoke depth floor start
  have finished := frame.finished_expression calls depth floor start
  refine ⟨finished, ?_, proceeds.gains, proceeds.forward, ?_, ?_⟩
  · intro fuel enough
    exact frame.run_eq_expression enough depth floor start
  · have within : reading.2 ≤ max start tokens.size := proceeds.inside
    rwa [Nat.max_eq_right inside] at within
  · intro change same
    apply (frame.expression_proceeds tokens _ depth floor start).same
    constructor
    · intro position _ _
      rfl
    · intro name callee registered position arguments behind reached
      exact congrFun (same callee (engine.call levels site tokens bindings position) rfl rfl behind
        reached) arguments

/-- In `f()` the call is behind the parentheses, and there the expression ends. -/
theorem expression_returns_call :
    let engine := core.configure (·.registerFunction "f" fun call _ => .ok (.ofNat call.position))
    let frame := engine.frame 0 [] #["f", "(", ")"] []
    (∀ name callee, engine.registry.function? name = some callee → ∀ position arguments,
        Finished (callee (engine.call 0 [] #["f", "(", ")"] [] position) arguments)) ∧
      0 ≤ #["f", "(", ")"].size ∧ frame.expression 0 0 0 = (.ok (.ofNat 3), 3) ∧
      Finished (frame.expression 0 0 0).1 ∧
      run frame 1000 0 (.expression 0) 0 = frame.expression 0 0 0 ∧
      0 < (frame.expression 0 0 0).2 := by
  intro engine frame
  have calls : ∀ name callee, engine.registry.function? name = some callee →
      ∀ position arguments,
        Finished (callee (engine.call 0 [] #["f", "(", ")"] [] position) arguments) := by
    intro name callee registered position arguments
    have only : (if "f" = name then some fun call _ => .ok (.ofNat call.position) else none) =
        some callee := registered
    split at only
    · cases only
      exact finished_ok _
    · cases only
  have read : frame.expression 0 0 0 = (.ok (.ofNat 3), 3) := by
    simp only [frame, engine]
    rfl
  obtain ⟨finished, more, gains, -, -, -⟩ := expression_returns calls 0 0 (Nat.zero_le _)
  refine ⟨calls, Nat.zero_le _, read, finished, more 1000 (by decide), ?_⟩
  exact gains (.ofNat 3) (congrArg Prod.fst read)

end Engine

/-- Nothing behind the token on which an expression of a standard engine ends, and nothing before
its start, matters to where and how it ends, with a value or with an error. -/
theorem Standard.expression_eq_of_tokens {clock : Calendar.Moment} {options : Options}
    {engine : Engine} (built : Engine.build (registry clock) options = .ok engine) (levels : Nat)
    (site : List Nat) (bindings : Table Value) (depth : Nat) (floor : Precedence) (start : Nat)
    {first second : Array String} :
    let read := fun tokens =>
      (engine.frame levels site tokens bindings).expression depth floor start
    (∀ position, start ≤ position → position ≤ (read first).2 →
        second[position]? = first[position]?) →
      read second = read first := by
  intro read same
  have independent := (sequences_of_build built).evaluatesOnly
  have proceeds := (engine.frame levels site first bindings).expression_proceeds second
    (engine.frame levels site second bindings).invoke depth floor start
  apply proceeds.same
  constructor
  · exact same
  · intro name callee registered position arguments _ _
    exact Engine.call_congr independent registered levels site site second first bindings position
      position arguments

/-- `true )` ends on the parenthesis, whatever follows. -/
theorem Standard.expression_eq_of_tokens_closed :
    let read := fun tokens : Array String =>
      ((Engine.standardWith ⟨0, 0, 0⟩ [] none).frame 0 [] tokens []).expression 0 0 0
    read #["true", ")"] = (.ok (.boolean true), 1) ∧
      (∀ position, 0 ≤ position → position ≤ 1 →
        #["true", ")", "or"][position]? = #["true", ")"][position]?) ∧
      read #["true", ")", "or"] = read #["true", ")"] := by
  intro read
  have ends : read #["true", ")"] = (.ok (.boolean true), 1) := by
    simp only [read]
    rfl
  have same : ∀ position, 0 ≤ position → position ≤ 1 →
      #["true", ")", "or"][position]? = #["true", ")"][position]? := by
    intro position _ reached
    match position, reached with
    | 0, _ => rfl
    | 1, _ => rfl
  refine ⟨ends, same, ?_⟩
  apply expression_eq_of_tokens (Engine.build_standard ⟨0, 0, 0⟩ [] none) 0 [] [] 0 0 0
  intro position after reached
  exact same position after (Nat.le_trans reached (Nat.le_of_eq (congrArg Prod.snd ends)))

end Reckon
