import Mathlib.Order.WellFounded
import Reckon.Proofs.Engine.SelfApplication
import Reckon.Proofs.Standard.Evaluations

/-!
Evaluations inside each other.  The limit on nesting is counted anew in each of them, so that an
evaluation comes back exactly if no infinite chain of evaluations starts with it.
-/

namespace Reckon.Engine

open Outcome

variable (engine : Engine)

/-- What a function sees of a call if the evaluations that it asks for have the given outcomes. -/
def answeredCall (answers : Answers) (request : Request) (position : Nat) : Call where
  tokens := (engine.tokens request.text).toArray
  position
  bindings := request.bindings
  site := [position]
  evaluate _ text extra := answers ⟨text, Table.insertAll request.bindings extra⟩
  restart _ text := answers ⟨text, engine.defaults⟩

/-- The outcome of an evaluation if those inside it have the given outcomes. -/
def answered (answers : Answers) (request : Request) : Outcome :=
  Frame.outcome
    { tokens := (engine.tokens request.text).toArray
      bindings := request.bindings
      registry := engine.registry
      limit := engine.limit
      invoke := fun position callee arguments =>
        callee (engine.answeredCall answers request position) arguments }

/-- The outcomes of evaluations with up to `levels` inside each other. -/
def attempt (levels : Nat) : Answers := fun request =>
  engine.evaluateIn levels [] request.text request.bindings

/-- An evaluation starts another one if it fails with every error that the other one is made to fail
with. -/
def Starts (outer inner : Request) : Prop :=
  ∃ levels, ∀ error,
    engine.answered ((engine.attempt levels).replace inner (.raise error)) outer = .raise error

variable {engine}

theorem evaluateIn_succ_eq_answered (independent : engine.registry.EvaluatesOnly) (levels : Nat)
    (site : List Nat) (text : String) (bindings : Table Value) :
    engine.evaluateIn (levels + 1) site text bindings =
      engine.answered (engine.attempt levels) ⟨text, bindings⟩ := by
  refine Frame.outcome_congr _ _ ?_
  intro name callee registered position arguments
  refine independent name callee registered _ _ ?_ arguments
  funext turn inner extra
  exact evaluateIn_site independent levels _ _ _ _

variable (consults : engine.registry.Consults)

include consults

theorem consults_call {name : String} {callee : Callable}
    (registered : engine.registry.function? name = some callee) (request : Request) (position : Nat)
    (arguments : List Value) :
    Consults fun answers =>
      callee (engine.answeredCall answers request position) arguments :=
  consults name callee registered _ (fun _ _ _ => .answer _) arguments

theorem consults_answered (request : Request) :
    Consults fun answers => engine.answered answers request where
  inquiry :=
    Frame.inquiry (engine.frame 0 [] (engine.tokens request.text).toArray request.bindings)
      fun _ _ registered position arguments =>
        (consults_call consults registered request position arguments).inquiry
  finished := fun answers complete =>
    Frame.finished_outcome _ fun _ _ registered position arguments =>
      (consults_call consults registered request position arguments).finished answers complete

variable (independent : engine.registry.EvaluatesOnly)

include independent

theorem attempt_extends {fewer more : Nat} (le : fewer ≤ more) :
    (engine.attempt fewer).Extends (engine.attempt more) := by
  induction fewer generalizing more with
  | zero =>
      intro request finished
      exact absurd rfl finished
  | succ fewer ih =>
      obtain ⟨more, rfl⟩ := Nat.exists_eq_add_of_le' (Nat.le_of_add_left_le le)
      intro request finished
      have below := ih (Nat.le_of_succ_le_succ le)
      unfold attempt at finished ⊢
      rw [evaluateIn_succ_eq_answered independent] at finished ⊢
      rw [evaluateIn_succ_eq_answered independent]
      exact (consults_answered consults request).inquiry.extends_finished below finished

/-- An evaluation that comes back has started only evaluations that come back. -/
theorem Starts.finished {outer inner : Request} (starts : engine.Starts outer inner) {levels : Nat}
    (finished : Finished (engine.attempt (levels + 1) outer)) :
    Finished (engine.attempt levels inner) := by
  intro missing
  obtain ⟨enough, fails⟩ := starts
  have whole : engine.attempt (levels + 1) outer = engine.answered (engine.attempt levels) outer :=
    evaluateIn_succ_eq_answered independent levels [] outer.text outer.bindings
  rw [whole] at finished
  -- Were the inner one not back, the outer one would come back with any error given to it.
  have same : ∀ error, engine.answered (engine.attempt levels) outer = .raise error := by
    intro error
    have inquiry := (consults_answered consults outer).inquiry
    have first := attempt_extends consults independent (Nat.le_max_left levels enough)
    have second := attempt_extends consults independent (Nat.le_max_right levels enough)
    have failed : Finished (engine.answered
        ((engine.attempt enough).replace inner (.raise error)) outer) := by
      rw [fails error]
      exact finished_raised error
    have here := inquiry.extends_finished (first.replace_missing missing (.raise error)) finished
    have there := inquiry.extends_finished second.replace_both failed
    exact here.symm.trans (there.trans (fails error))
  have both := (same .invalidPattern).symm.trans (same (.missingVariable ""))
  cases both

theorem exists_starts {outer : Request}
    (unfinished : ∀ levels, engine.attempt levels outer = .error .unfinished) :
    ∃ inner, engine.Starts outer inner ∧
      ∀ levels, engine.attempt levels inner = .error .unfinished := by
  have answered : ∀ levels, engine.answered (engine.attempt levels) outer = .error .unfinished := by
    intro levels
    rw [← evaluateIn_succ_eq_answered independent levels []]
    exact unfinished (levels + 1)
  have consulted := consults_answered consults outer
  rcases consulted.inquiry.waits (fun _ _ => attempt_extends consults independent) answered with
    ⟨inner, never, levels, fails⟩ | ⟨levels, stuck⟩
  · exact ⟨inner, ⟨levels, fun error => fails (.raised error)⟩, never⟩
  · exact absurd stuck (consulted.finished _ (Answers.finished_completed _))

theorem finished_iff_no_chain (request : Request) :
    (∃ levels, Finished (engine.attempt levels request)) ↔
      ¬∃ chain : Nat → Request, chain 0 = request ∧
        ∀ index, engine.Starts (chain index) (chain (index + 1)) := by
  constructor
  · rintro ⟨levels, finished⟩ ⟨chain, rfl, starts⟩
    induction levels generalizing chain with
    | zero => exact finished rfl
    | succ levels ih =>
        have back := (starts 0).finished consults independent finished
        exact ih (chain <| · + 1) (fun index => starts (index + 1)) back
  · intro chainless
    have accessible : Acc (fun inner outer => engine.Starts outer inner) request := by
      by_contra endless
      exact chainless (not_acc_iff_exists_descending_chain.mp endless)
    clear chainless
    induction accessible with
    | intro outer _ ih =>
        by_contra never
        simp only [Finished, not_exists, not_not] at never
        obtain ⟨inner, starts, unfinished⟩ := exists_starts consults independent never
        obtain ⟨levels, finished⟩ := ih inner starts
        exact finished (unfinished levels)

end Reckon.Engine

namespace Reckon.Standard

open Outcome

/-- Whatever its options, a standard engine answers a text in one pass over its tokens.  The pass
ends if the evaluations inside it do, and the evaluation has an outcome that more levels do not
change exactly if no infinite chain of evaluations, each started by the one before, begins with
it. -/
theorem finished_iff_no_infinite_chain {clock : Calendar.Moment} {options : Options}
    {engine : Engine} (built : Engine.build (registry clock) options = .ok engine)
    (site : List Nat) (text : String) (bindings : Table Value) :
    (∀ levels, engine.evaluateIn (levels + 1) site text bindings =
        engine.answered (engine.attempt levels) ⟨text, bindings⟩) ∧
      (∀ answers : Answers, (∀ request, Finished (answers request)) →
        Finished (engine.answered answers ⟨text, bindings⟩)) ∧
      ((∃ levels outcome, Finished outcome ∧
          ∀ more, levels ≤ more → engine.evaluateIn more site text bindings = outcome) ↔
        ¬∃ chain : Nat → Request, chain 0 = ⟨text, bindings⟩ ∧
          ∀ index, engine.Starts (chain index) (chain (index + 1))) := by
  have functions : ∀ name, engine.registry.function? name = (registry clock).function? name := by
    unfold Engine.build at built
    split at built
    · cases built
    · cases built
      intro name
      rfl
  have independent : engine.registry.EvaluatesOnly := by
    intro name callee found
    exact evaluatesOnly clock name callee (functions name ▸ found)
  have consults : engine.registry.Consults := by
    intro name callee found
    exact Standard.consults clock name callee (functions name ▸ found)
  refine ⟨?_, ?_, ?_⟩
  · intro levels
    exact Engine.evaluateIn_succ_eq_answered independent levels site text bindings
  · exact (Engine.consults_answered consults ⟨text, bindings⟩).finished
  · rw [← Engine.finished_iff_no_chain consults independent]
    have atSite : ∀ levels, engine.evaluateIn levels site text bindings =
        engine.attempt levels ⟨text, bindings⟩ :=
      fun levels => Engine.evaluateIn_site independent levels site [] text bindings
    constructor
    · rintro ⟨levels, outcome, finished, stays⟩
      refine ⟨levels, ?_⟩
      rw [← atSite, stays levels (Nat.le_refl levels)]
      exact finished
    · rintro ⟨levels, finished⟩
      refine ⟨levels, _, finished, ?_⟩
      intro more le
      rw [atSite]
      exact Engine.attempt_extends consults independent le ⟨text, bindings⟩ finished

/-- With a limit of eight an infinite chain begins with `map(a, s)` where `s` is bound to it. -/
theorem infinite_chain_of_selfApplication :
    let engine := Engine.standardWith ⟨0, 0, 0⟩ [] (some 8)
    let bindings : Table Value := [("a", .array [.null]), ("s", .string "map(a, s)")]
    Engine.build (registry ⟨0, 0, 0⟩) { limit := some 8 } = .ok engine ∧
      ∃ chain : Nat → Request, chain 0 = ⟨"map(a, s)", bindings⟩ ∧
        ∀ index, engine.Starts (chain index) (chain (index + 1)) := by
  intro engine bindings
  have built := Engine.build_standard ⟨0, 0, 0⟩ [] (some 8)
  refine ⟨built, ?_⟩
  by_contra chainless
  obtain ⟨-, -, returns⟩ := finished_iff_no_infinite_chain built [] "map(a, s)" bindings
  obtain ⟨levels, outcome, finished, stays⟩ := returns.mpr chainless
  have endless := unfinished_of_selfApplication ⟨0, 0, 0⟩ [] (some 8) (by simp) levels [] bindings
    rfl rfl
  exact finished ((stays levels (Nat.le_refl levels)).symm.trans endless)

/-- So a limit does not bound evaluations inside each other: this one never comes back. -/
theorem selfApplication_never_finished :
    ¬∃ levels, Finished ((Engine.standardWith ⟨0, 0, 0⟩ [] (some 8)).evaluateIn levels []
      "map(a, s)" [("a", .array [.null]), ("s", .string "map(a, s)")]) := by
  rintro ⟨levels, finished⟩
  exact finished (unfinished_of_selfApplication ⟨0, 0, 0⟩ [] (some 8) (by simp) levels [] _ rfl rfl)

end Reckon.Standard
