import Mathlib.Data.List.Forall2
import Reckon.Proofs.Formula.Grouping

/-!
Operators of one precedence between operands.  They apply from left to right, except at the last
precedence: there the right operand of an operator cannot ask for a higher one, so it takes up the
operators behind it, and they apply from right to left.
-/

namespace Reckon

/-- Operators, each with its right operand, applied from left to right. -/
def BinaryOperator.foldLeft (value : Value) (steps : List (BinaryOperator × Value)) :
    Except Error Value :=
  steps.foldlM (fun left step => step.1 left step.2) value

/-- Operators, each with its right operand, applied from right to left. -/
def BinaryOperator.foldRight (value : Value) : List (BinaryOperator × Value) → Except Error Value
  | [] => .ok value
  | (operator, next) :: steps => do
      let right ← foldRight next steps
      operator value right

open BinaryOperator

theorem Outcome.ofExcept_bind (found : Except Error Value) (next : Value → Except Error Value) :
    Outcome.ofExcept (found >>= next) =
      Outcome.ofExcept found >>= fun value => Outcome.ofExcept (next value) := by
  cases found <;> rfl

namespace Formula

section

variable {precedence : String → Precedence} {level : Precedence} {links : List (String × Formula)}
  (same : ∀ link ∈ links, precedence link.1 = level) (first : Formula)

include same

theorem grouped_level (lower : level ≠ Precedence.last) :
    grouped precedence first links =
      links.foldl (fun left link => .binary link.1 left link.2) first := by
  have stops : ∀ link ∈ links, tighter precedence level.next link = false := by
    intro link member
    have above : level < level.next := by
      have bounded := level.toNat_le_last
      have different : level.toNat ≠ Precedence.last.toNat := fun equal =>
        lower (UInt32.toNat_inj.mp equal)
      rw [Precedence.lt_next_iff]
      omega
    simpa [tighter, same link member] using above
  induction links generalizing first with
  | nil => exact grouped_nil first
  | cons link rest ih =>
      rw [grouped_cons, same link List.mem_cons_self]
      have untaken : rest.takeWhile (tighter precedence level.next) = [] ∧
          rest.dropWhile (tighter precedence level.next) = rest := by
        cases rest with
        | nil => exact ⟨rfl, rfl⟩
        | cons next rest => simp [stops next (by simp)]
      rw [untaken.1, untaken.2, grouped_nil]
      exact ih (fun link member => same link (List.mem_cons_of_mem _ member)) _
        fun link member => stops link (List.mem_cons_of_mem _ member)

theorem grouped_last (top : level = Precedence.last) {link : String × Formula}
    (also : precedence link.1 = level) :
    grouped precedence first (link :: links) =
      .binary link.1 first (grouped precedence link.2 links) := by
  have all : ∀ other ∈ links, tighter precedence level.next other = true := by
    intro other member
    simp [tighter, same other member, top, Precedence.next, Precedence.last]
  rw [grouped_cons, also, List.takeWhile_eq_self_iff.mpr all, List.dropWhile_eq_nil_iff.mpr all,
    grouped_nil]

end

/-- What an operator stands for, and what the operand behind it comes to. -/
structure Setting.Denotes (setting : Setting) (link : String × Formula)
    (step : BinaryOperator × Value) : Prop where
  registered : setting.registry.operator? link.1 = some step.1
  valued : link.2.evaluate setting = .ok step.2

section

variable {frame : Frame} {links : List (String × Formula)}
  {steps : List (BinaryOperator × Value)}
  (denotes : List.Forall₂ frame.setting.Denotes links steps) {first : Formula}

include denotes

theorem evaluate_foldl {found : Except Error Value}
    (valued : first.evaluate frame.setting = Outcome.ofExcept found) :
    (links.foldl (fun left link => .binary link.1 left link.2) first).evaluate frame.setting =
      Outcome.ofExcept (found >>= fun value => foldLeft value steps) := by
  induction denotes generalizing first found with
  | nil => simpa [foldLeft] using valued
  | @cons link step links steps one _ ih =>
      -- the operator applied to what came of the operators before it, or their error
      have applied : (Formula.binary link.1 first link.2).evaluate frame.setting =
          Outcome.ofExcept (found >>= fun value => step.1 value step.2) := by
        rw [evaluate_binary one.registered, valued, one.valued, Outcome.ofExcept_bind]
        rfl
      rw [List.foldl_cons, ih applied, bind_assoc]
      rfl

theorem evaluate_grouped_last
    (top : ∀ link ∈ links, frame.registry.precedence link.1 = Precedence.last) {value : Value}
    (valued : first.evaluate frame.setting = .ok value) :
    (grouped frame.registry.precedence first links).evaluate frame.setting =
      Outcome.ofExcept (foldRight value steps) := by
  induction denotes generalizing first value with
  | nil => rwa [grouped_nil]
  | @cons link step links steps one _ ih =>
      have rest := fun link member => top link (List.mem_cons_of_mem _ member)
      rw [grouped_last rest first rfl (top link List.mem_cons_self),
        evaluate_binary one.registered, valued, ih rest one.valued, foldRight,
        Outcome.ofExcept_bind]
      rfl

end

end Formula

open Formula

/-- A text of operands with operators of one precedence between them comes to what the operators,
applied from left to right, make of the values of the operands; at the last precedence, to what they
make of them from right to left.  Either way the first application that fails is its error.  Only
a limit on the nesting can get in the way. -/
theorem Engine.evaluateIn_of_level (engine : Engine) (levels : Nat) (site : List Nat)
    {text : String} {tokens : Array String} (lexed : (engine.tokens text).toArray = tokens)
    (bindings : Table Value) {first : Formula} {links : List (String × Formula)}
    (chain : Chain engine.registry tokens 0 first links tokens.size) {level : Precedence}
    (same : ∀ link ∈ links, engine.registry.precedence link.1 = level) {value : Value}
    (valued : first.evaluate (engine.frame levels site tokens bindings).setting = .ok value)
    {steps : List (BinaryOperator × Value)}
    (denotes : List.Forall₂ (engine.frame levels site tokens bindings).setting.Denotes
      links steps) :
    engine.evaluateIn (levels + 1) site text bindings = Outcome.ofExcept
        (if level = Precedence.last then foldRight value steps else foldLeft value steps) ∨
      ∃ limit, engine.limit = some limit ∧
        engine.evaluateIn (levels + 1) site text bindings =
          Outcome.raise (.nestingTooDeep limit) := by
  rw [evaluateIn_succ, lexed]
  have inFrame : Chain (engine.frame levels site tokens bindings).registry
      (engine.frame levels site tokens bindings).tokens 0 first links tokens.size := chain
  rcases Frame.outcome_or_tooDeep inFrame with whole | deep
  · left
    rw [whole]
    split
    · rename_i top
      exact evaluate_grouped_last denotes (fun link member => (same link member).trans top) valued
    · rename_i lower
      have left : grouped (engine.frame levels site tokens bindings).registry.precedence first
          links = _ := grouped_level same first lower
      rw [left]
      exact @evaluate_foldl _ links steps denotes first (.ok value) valued
  · exact .inr deep

/-- The standard operators with `and` and `or` on one level. -/
def Standard.leveled (level : Precedence) : Engine :=
  Engine.core.configure fun registry =>
    (Standard.withOperators registry).setPrecedences [("and", level), ("or", level)]

/-- What `and true or true` applies to the value before it. -/
def Standard.conjunctionDisjunction : List (BinaryOperator × Value) :=
  [(fun left right => .ok (conjunction left right), .boolean true),
    (fun left right => .ok (disjunction left right), .boolean true)]

theorem Standard.chain_leveled (level : Precedence) :
    Chain (leveled level).registry #["false", "and", "true", "or", "true"] 0
      (.literal (.boolean false))
      [("and", .literal (.boolean true)), ("or", .literal (.boolean true))] 5 := by
  have yes : ∀ place inside, readUnary (leveled level).registry
      #["false", "and", "true", "or", "true"] "true" place inside = _ :=
    fun place inside => readUnary_of_literal inside rfl
  refine @Chain.intro _ _ 0 _ _ _ (by decide) (readUnary_of_literal (by decide) rfl) ?_
  refine @Links.cons _ _ 1 _ _ _ (by decide) rfl (yes 2 (by decide)) ?_
  refine @Links.cons _ _ 3 _ _ _ (by decide) rfl (yes 4 (by decide)) (.nil ?_)
  intro symbol found
  simp at found

theorem Standard.precedence_leveled (level : Precedence) (operand : Formula) :
    ∀ link ∈ [("and", operand), ("or", operand)],
      (leveled level).registry.precedence link.1 = level := by
  intro link member
  simp only [List.mem_cons, List.not_mem_nil, or_false] at member
  rcases member with rfl | rfl <;> rfl

theorem Standard.denotes_leveled (level : Precedence) (tokens : Array String) :
    List.Forall₂ ((leveled level).frame 0 [] tokens []).setting.Denotes
      [("and", .literal (.boolean true)), ("or", .literal (.boolean true))]
      conjunctionDisjunction :=
  .cons ⟨rfl, rfl⟩ (.cons ⟨rfl, rfl⟩ .nil)

/-- With `and` and `or` on a common level below the last one, `false and true or true` is true. -/
theorem Engine.evaluateIn_of_level_five :
    let engine := Standard.leveled 5
    let tokens := #["false", "and", "true", "or", "true"]
    let links : List (String × Formula) :=
      [("and", .literal (.boolean true)), ("or", .literal (.boolean true))]
    let setting := (engine.frame 0 [] tokens []).setting
    (engine.tokens "false and true or true").toArray = tokens ∧
      Chain engine.registry tokens 0 (.literal (.boolean false)) links tokens.size ∧
      (∀ link ∈ links, engine.registry.precedence link.1 = 5) ∧
      (Formula.literal (.boolean false)).evaluate setting = .ok (.boolean false) ∧
      List.Forall₂ setting.Denotes links Standard.conjunctionDisjunction ∧
      engine.evaluateIn 1 [] "false and true or true" [] = .ok (.boolean true) := by
  intro engine tokens links setting
  have lexed : (engine.tokens "false and true or true").toArray = tokens := by decide +kernel
  have chain : Chain engine.registry tokens 0 (.literal (.boolean false)) links tokens.size :=
    Standard.chain_leveled 5
  have same := Standard.precedence_leveled 5 (.literal (.boolean true))
  have denotes := Standard.denotes_leveled 5 tokens
  refine ⟨lexed, chain, same, rfl, denotes, ?_⟩
  rcases engine.evaluateIn_of_level 0 [] lexed [] chain same rfl denotes with
    whole | ⟨limit, limited, -⟩
  · exact whole
  · cases limited

/-- On the last level it is false, although the same applications from left to right give true. -/
theorem Engine.evaluateIn_at_last_level :
    let engine := Standard.leveled Precedence.last
    let tokens := #["false", "and", "true", "or", "true"]
    let links : List (String × Formula) :=
      [("and", .literal (.boolean true)), ("or", .literal (.boolean true))]
    (engine.tokens "false and true or true").toArray = tokens ∧
      Chain engine.registry tokens 0 (.literal (.boolean false)) links tokens.size ∧
      (∀ link ∈ links, engine.registry.precedence link.1 = Precedence.last) ∧
      List.Forall₂ (engine.frame 0 [] tokens []).setting.Denotes links
        Standard.conjunctionDisjunction ∧
      foldLeft (.boolean false) Standard.conjunctionDisjunction = .ok (.boolean true) ∧
      engine.evaluateIn 1 [] "false and true or true" [] = .ok (.boolean false) := by
  intro engine tokens links
  have same := Standard.precedence_leveled Precedence.last (.literal (.boolean true))
  have value : engine.evaluateIn 1 [] "false and true or true" [] = .ok (.boolean false) := by
    simp only [engine]
    rfl
  exact ⟨by decide +kernel, Standard.chain_leveled Precedence.last, same,
    Standard.denotes_leveled Precedence.last tokens, rfl, value⟩

end Reckon
