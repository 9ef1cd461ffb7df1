import Reckon.Proofs.Engine.Hereditary
import Reckon.Proofs.Formula.Finished
import Reckon.Proofs.Formula.Row

/-!
Reductions of arrays put together.  Where the expression gives the same at each index, the second
array goes on with what the first one comes to, an error or a value; and a value that is passed on,
null or not, is never a name without a value.  Both are said of values without getters: a getter
that is passed on within one reduction is not asked, and between two it is.
-/

namespace Reckon

open Outcome Value

namespace Standard

section

variable {combine : Nat → Value → Value → Outcome}

theorem reduceItems_append (accumulated : Value) (index : Nat) (first second : List Value) :
    reduceItems combine accumulated index (first ++ second) =
      reduceItems combine accumulated index first >>= fun reached =>
        reduceItems combine reached (index + first.length) second := by
  induction first generalizing accumulated index with
  | nil => rfl
  | cons item rest ih =>
      have counted : index + (item :: rest).length = index + 1 + rest.length := by
        rw [List.length_cons]
        omega
      change (combine index item accumulated >>= fun next =>
          reduceItems combine next (index + 1) (rest ++ second)) = _
      simp only [ih, counted]
      exact (bind_assoc _ _ _).symm

/-- Where an element gives the same at each index, it does not matter from where the elements are
counted. -/
theorem reduceItems_from {good : Value → Prop} {admits : Error → Prop} {items : List Value}
    (keeps : ∀ index, ∀ item ∈ items, ∀ accumulated, good accumulated →
      Ends good (Fault.Raises admits) (combine index item accumulated))
    (ignores : ∀ item ∈ items, ∀ accumulated, good accumulated → ∀ index other,
      combine index item accumulated = combine other item accumulated)
    {accumulated : Value} (start : good accumulated) (index other : Nat) :
    reduceItems combine accumulated index items = reduceItems combine accumulated other items := by
  induction items generalizing accumulated index other with
  | nil => rfl
  | cons item rest ih =>
      have here := keeps other item List.mem_cons_self accumulated start
      have later := @ih (fun index item member => keeps index item (List.mem_cons_of_mem _ member))
        (fun item member => ignores item (List.mem_cons_of_mem _ member))
      unfold reduceItems
      rw [ignores item List.mem_cons_self accumulated start index other]
      cases reached : combine other item accumulated with
      | error fault => rfl
      | ok next =>
          rw [reached] at here
          exact later here (index + 1) (other + 1)

end

theorem reduceArray_eq (call : Call) (items : List Value) (text : String) (initial : Value) :
    reduceArray call [.array items, .string text, initial] =
      reduceItems (fun index item accumulated =>
        call.evaluate index text (reduceBindings index item accumulated)) initial.force 0 items :=
  rfl

section

variable (bindings : Table Value) (index : Nat) (item : Value) {accumulated : Value}

theorem get?_accumulated :
    Table.get? (Table.insertAll bindings (reduceBindings index item accumulated)) "_curr_" =
      some accumulated := by
  rw [Table.get?_insertAll]
  rfl

theorem lookup_reduceBindings :
    Grammar.lookup (Table.insertAll bindings (reduceBindings index item accumulated)) "_curr_" =
      Grammar.lookup [("_curr_", accumulated)] "_curr_" := by
  unfold Grammar.lookup
  rw [get?_accumulated]
  rfl

theorem lookup_accumulated (free : GetterFree accumulated) :
    Grammar.lookup (Table.insertAll bindings (reduceBindings index item accumulated)) "_curr_" =
      .ok accumulated := by
  rw [lookup_reduceBindings]
  cases accumulated with
  | getter identity yielded => exact absurd free (not_getterFree_getter identity yielded)
  | _ => rfl

end

end Standard

/-- The expression of a reduction comes to the same for an element at each index. -/
def Engine.IgnoresIndex (engine : Engine) (levels : Nat) (text : String) (bindings : Table Value)
    (items : List Value) : Prop :=
  ∀ item ∈ items, ∀ accumulated, GetterFree accumulated → ∀ index other,
    engine.evaluateIn levels [] text
        (Table.insertAll bindings (Standard.reduceBindings index item accumulated)) =
      engine.evaluateIn levels [] text
        (Table.insertAll bindings (Standard.reduceBindings other item accumulated))

namespace Standard

section

variable {clock : Calendar.Moment} {options : Options} {engine : Engine}
  (built : Engine.build (registry clock) options = .ok engine)
  (own : ∀ entry ∈ options.unaryOperators, ∀ operand, GetterFree operand →
    Ends GetterFree (Error.Spares (· = "_curr_")) (entry.2 operand))
  {bindings : Table Value} (bound : ∀ entry ∈ bindings, GetterFree entry.2)

include built own bound

/-- What is accumulated next has no getters either, and no error is about its name. -/
theorem ends_accumulated (levels : Nat) (site : List Nat) (text : String) (index : Nat)
    {item accumulated : Value} (here : GetterFree item) (before : GetterFree accumulated) :
    Ends GetterFree (Fault.Raises (Error.Spares (· = "_curr_")))
      (engine.evaluateIn levels site text
        (Table.insertAll bindings (reduceBindings index item accumulated))) := by
  have keeps := keeps_of_build hereditary_getterFree built (fun _ refuses => refuses.spares _) own
  refine Engine.evaluateIn_ends hereditary_getterFree ?_ keeps levels site text ⟨?_, ?_⟩
  · exact fun _ _ identity free => not_getterFree_getter identity .null free
  · intro entry member
    rcases Table.mem_insertAll member with kept | added
    · exact bound entry kept
    · exact holds_reduceBindings hereditary_getterFree index here before entry added
  · rintro name rfl
    rw [get?_accumulated]
    rfl

end

/-- On a standard engine whose own operators make no getters, a reduction of two arrays one after
the other fails with the fault of the first array, and otherwise comes to what the second array
does from the value of the first: a value or a fault.  The expression has to come to the same at
each index, and bindings, elements and the initial value have no getters, as no value that an
expression gives has under such bindings.  What is passed on from an element to the next, null or
not, is the value of its name, so no reduction fails because that name has none. -/
theorem reduce_append {clock : Calendar.Moment} {options : Options} {engine : Engine}
    (built : Engine.build (registry clock) options = .ok engine)
    (own : ∀ entry ∈ options.unaryOperators, ∀ operand, GetterFree operand →
      Ends GetterFree (Error.Spares (· = "_curr_")) (entry.2 operand))
    (levels : Nat) (site : List Nat) (tokens : Array String) {bindings : Table Value}
    (position : Nat) (bound : ∀ entry ∈ bindings, GetterFree entry.2) {ys zs : List Value}
    (free : ∀ item ∈ ys ++ zs, GetterFree item) {text : String}
    (ignores : engine.IgnoresIndex levels text bindings (ys ++ zs)) :
    let call := engine.call levels site tokens bindings position
    let reduce (items : List Value) (initial : Value) : Outcome :=
      reduceArray call [.array items, .string text, initial]
    (∀ initial, GetterFree initial.force →
        reduce (ys ++ zs) initial =
          reduce ys initial >>= fun accumulated => reduce zs accumulated) ∧
      (∀ levels site source initial, engine.evaluateIn levels site source bindings = .ok initial →
        GetterFree initial.force) ∧
      (∀ index item accumulated, GetterFree accumulated →
        Grammar.lookup (Table.insertAll bindings (reduceBindings index item accumulated)) "_curr_" =
          .ok accumulated) ∧
      ∀ initial, GetterFree initial.force →
        reduce (ys ++ zs) initial ≠ raise (.missingVariable "_curr_") := by
  intro call reduce
  let combine (index : Nat) (item accumulated : Value) : Outcome :=
    call.evaluate index text (reduceBindings index item accumulated)
  have step : ∀ index, ∀ item ∈ ys ++ zs, ∀ accumulated, GetterFree accumulated →
      Ends GetterFree (Fault.Raises (Error.Spares (· = "_curr_")))
        (combine index item accumulated) := by
    intro index item member accumulated before
    exact ends_accumulated built own bound levels _ text index (free item member) before
  have same : ∀ item ∈ ys ++ zs, ∀ accumulated, GetterFree accumulated → ∀ index other,
      combine index item accumulated = combine other item accumulated := by
    intro item member accumulated before index other
    -- the turns of the evaluations are counted by the index too, but the site does not matter
    have anywhere := Engine.evaluateIn_site (sequences_of_build built).evaluatesOnly levels
    exact (anywhere _ [] text _).trans
      ((ignores item member accumulated before index other).trans (anywhere [] _ text _))
  have folded : ∀ items initial,
      reduce items initial = reduceItems combine initial.force 0 items :=
    fun items initial => reduceArray_eq call items text initial
  refine ⟨?_, ?_, ?_, ?_⟩
  · intro initial start
    have ends := ends_reduceItems (fun index item member =>
      step index item (List.mem_append_left zs member)) start 0
    rw [folded, folded, reduceItems_append]
    cases reached : reduceItems combine initial.force 0 ys with
    | error fault => rfl
    | ok accumulated =>
        rw [reached] at ends
        have holds : GetterFree accumulated := ends
        -- handed over as an argument, the value is asked like a getter, which it is not
        rw [ok_bind, ok_bind, folded, holds.force]
        exact reduceItems_from (fun index item member =>
            step index item (List.mem_append_right ys member))
          (fun item member => same item (List.mem_append_right ys member)) holds _ 0
  · intro levels site source initial evaluated
    refine hereditary_getterFree.force
      (evaluateIn_holds built hereditary_getterFree ?_ bound evaluated)
    intro entry member operand here
    exact (own entry member operand here).mono (fun _ => id) fun _ _ => trivial
  · intro index item accumulated before
    exact lookup_accumulated bindings index item before
  · intro initial start missing
    have ends := ends_reduceItems step start 0
    rw [← folded, missing] at ends
    exact ends rfl

/-- Null is put into an array for the first element, and that into an array for the second one. -/
theorem reduce_append_null :
    let engine := Engine.standardWith ⟨0, 0, 0⟩ [] none
    let reduce (items : List Value) (initial : Value) : Outcome :=
      reduceArray (engine.call 1 [] #[] [] 0) [.array items, .string "[_curr_]", initial]
    Engine.build (registry ⟨0, 0, 0⟩) {} = .ok engine ∧
      (∀ entry ∈ ({} : Options).unaryOperators, ∀ operand, GetterFree operand →
        Ends GetterFree (Error.Spares (· = "_curr_")) (entry.2 operand)) ∧
      (∀ item ∈ [.boolean true] ++ [.null], GetterFree item) ∧
      engine.IgnoresIndex 1 "[_curr_]" [] ([.boolean true] ++ [.null]) ∧
      GetterFree (Value.force .null) ∧
      reduce [.boolean true] .null = .ok (.array [.null]) ∧
      reduce [.null] (.array [.null]) = .ok (.array [.array [.null]]) ∧
      reduce [.boolean true, .null] .null = .ok (.array [.array [.null]]) := by
  intro engine reduce
  have built : Engine.build (registry ⟨0, 0, 0⟩) {} = .ok engine :=
    Engine.build_standard ⟨0, 0, 0⟩ [] none
  have free : ∀ item ∈ [.boolean true] ++ [.null], GetterFree item := by
    simp only [List.cons_append, List.nil_append, List.forall_mem_cons]
    exact ⟨hereditary_getterFree.boolean true, hereditary_getterFree.null, List.forall_mem_nil _⟩
  have null : GetterFree (Value.force .null) := hereditary_getterFree.null
  have derived : Formula.Derives engine.registry #["[", "_curr_", "]"]
      (.expression 0 (.array [.name "_curr_" false])) 0 3 := by
    have closing : Formula.Loose engine.registry #["[", "_curr_", "]"] 0 2 := by
      rintro symbol ⟨⟩
      exact .inl rfl
    have name : Formula.Derives engine.registry #["[", "_curr_", "]"]
        (.expression 0 (.name "_curr_" false)) 1 2 := .expression rfl (.name rfl) (.loose closing)
    exact .expression rfl (.array rfl (.element (by decide) name (.inr ⟨rfl, rfl⟩)
      (.lastElement rfl))) (.loose nofun)
  have wrapped : ∀ index item accumulated, GetterFree accumulated →
      engine.evaluateIn 1 [] "[_curr_]"
          (Table.insertAll [] (reduceBindings index item accumulated)) =
        .ok (.array [accumulated]) := by
    intro index item accumulated holds
    have tokens : engine.tokens "[_curr_]" = ["[", "_curr_", "]"] := rfl
    have found := lookup_accumulated [] index item holds
    rw [Engine.evaluateIn_succ, tokens, Frame.outcome_of_derives rfl derived]
    simp [Formula.evaluate, Formula.evaluateAll, Formula.Setting.name, Frame.setting, Engine.frame,
      found]
  have ignores : engine.IgnoresIndex 1 "[_curr_]" [] ([.boolean true] ++ [.null]) := by
    intro item _ accumulated holds index other
    rw [wrapped index item accumulated holds, wrapped other item accumulated holds]
  have first : reduce [.boolean true] .null = .ok (.array [.null]) := by
    simp only [reduce, engine]
    rfl
  have second : reduce [.null] (.array [.null]) = .ok (.array [.array [.null]]) := by
    simp only [reduce, engine]
    rfl
  have own : ∀ entry ∈ ({} : Options).unaryOperators, ∀ operand, GetterFree operand →
      Ends GetterFree (Error.Spares (· = "_curr_")) (entry.2 operand) := List.forall_mem_nil _
  obtain ⟨split, -⟩ :=
    reduce_append built own 1 [] #[] 0 (List.forall_mem_nil _) free ignores
  refine ⟨built, own, free, ignores, null, first, second, ?_⟩
  calc reduce [.boolean true, .null] .null
      = reduce [.boolean true] .null >>= fun accumulated => reduce [.null] accumulated :=
        split .null null
    _ = reduce [.null] (.array [.null]) := by rw [first, ok_bind]
    _ = .ok (.array [.array [.null]]) := second

/-- From a getter of a getter of null a reduction of nothing comes to the getter inside, and a
reduction that starts with this one asks it.  The reduction of the whole hands it on to the
expression unasked, where its name has no value. -/
theorem reduce_append_getters :
    let engine := Engine.standardWith ⟨0, 0, 0⟩ [] none
    let reduce (items : List Value) (initial : Value) : Outcome :=
      reduceArray (engine.call 1 [] #[] [] 0) [.array items, .string "_curr_", initial]
    let evaluated (index : Nat) (item accumulated : Value) : Outcome :=
      engine.evaluateIn 1 [] "_curr_" (Table.insertAll [] (reduceBindings index item accumulated))
    let yielded : Value := .getter (.supplied 1) .null
    let initial : Value := .getter (.supplied 0) yielded
    Engine.build (registry ⟨0, 0, 0⟩) {} = .ok engine ∧
      GetterFree (.boolean true) ∧
      (∀ item accumulated index other,
        evaluated index item accumulated = evaluated other item accumulated) ∧
      (∀ item accumulated index, Finished (evaluated index item accumulated)) ∧
      reduce [] initial = .ok yielded ∧
      reduce [.boolean true] yielded = .ok .null ∧
      reduce ([] ++ [.boolean true]) initial = raise (.missingVariable "_curr_") := by
  intro engine reduce evaluated yielded initial
  have derived : Formula.Derives engine.registry #["_curr_"]
      (.expression 0 (.name "_curr_" false)) 0 1 :=
    .expression rfl (.name rfl) (.loose nofun)
  have valued : ∀ item accumulated index, evaluated index item accumulated =
      Outcome.ofExcept (Grammar.lookup [("_curr_", accumulated)] "_curr_") := by
    intro item accumulated index
    have tokens : engine.tokens "_curr_" = ["_curr_"] := rfl
    simp only [evaluated]
    rw [Engine.evaluateIn_succ, tokens, Frame.outcome_of_derives rfl derived,
      ← lookup_reduceBindings [] index item]
    rfl
  refine ⟨Engine.build_standard ⟨0, 0, 0⟩ [] none, hereditary_getterFree.boolean true, ?_, ?_, rfl,
    ?_, ?_⟩
  · intro item accumulated index other
    rw [valued, valued]
  · intro item accumulated index
    rw [valued]
    exact finished_ofExcept _
  · simp only [reduce, engine, yielded]
    rfl
  · simp only [reduce, engine, initial, yielded]
    rfl

end Standard

end Reckon
