import Reckon.Proofs.Grammar.Families
import Reckon.Proofs.Standard.Arguments

/-!
What the standard functions do with the evaluations that they ask for: they put the results in
sequence, and the only errors of their own are about their arguments.  So a property of results that
sequences keep goes from the evaluations over to the calls.
-/

namespace Reckon

open Outcome

/-- A property of results, one for each of several ways to answer evaluations, that sequences
keep. -/
structure Sequential {ι : Type} (Holds : {α : Type} → (ι → Except Fault α) → Prop) : Prop where
  settled : ∀ {α : Type} {result : Except Fault α}, Ordinary result → Holds fun _ => result
  bind : ∀ {α β : Type} {first : ι → Except Fault α} {next : ι → α → Except Fault β}, Holds first →
    (∀ value, Holds fun i => next i value) → Holds fun i => first i >>= next i

/-- Functions that do nothing with the evaluations that they ask for but to put them in sequence. -/
def Registry.Sequences (registry : Registry) : Prop :=
  ∀ (ι : Type) (Holds : {α : Type} → (ι → Except Fault α) → Prop), Sequential Holds →
    ∀ name callee, registry.function? name = some callee → ∀ calls : ι → Call,
      (∀ turn text extra, Holds fun i => (calls i).evaluate turn text extra) →
        ∀ arguments, Holds fun i => callee (calls i) arguments

namespace Sequential

variable {ι : Type} {Holds : {α : Type} → (ι → Except Fault α) → Prop}
  (sequential : Sequential Holds)

include sequential

theorem ok {α : Type} (value : α) : Holds fun _ => (.ok value : Except Fault α) :=
  sequential.settled (ordinary_ok value)

theorem map {α β : Type} {first : ι → Except Fault α} (change : α → β) (holds : Holds first) :
    Holds fun i => first i >>= fun value => .ok (change value) :=
  sequential.bind holds fun value => sequential.ok (change value)

section

variable {each : ι → Nat → Value → Outcome}
  (holds : ∀ index item, Holds fun i => each i index item)

include holds

theorem keepWhere (index : Nat) (items : List Value) :
    Holds fun i => Standard.keepWhere (each i) index items := by
  induction items generalizing index with
  | nil => exact sequential.ok _
  | cons item rest ih =>
      apply sequential.bind (holds index item)
      intro verdict
      exact sequential.map _ (ih (index + 1))

theorem mapItems (index : Nat) (items : List Value) :
    Holds fun i => Standard.mapItems (each i) index items := by
  induction items generalizing index with
  | nil => exact sequential.ok _
  | cons item rest ih =>
      apply sequential.bind (holds index item)
      intro mapped
      exact sequential.map _ (ih (index + 1))

theorem findWhere (wanted : Bool) (index : Nat) (items : List Value) :
    Holds fun i => Standard.findWhere wanted (each i) index items := by
  induction items generalizing index with
  | nil => exact sequential.ok _
  | cons item rest ih =>
      apply sequential.bind (holds index item)
      intro verdict
      split
      · exact sequential.ok _
      · exact ih (index + 1)

theorem keepDistinct (seen : List Value) (index : Nat) (items : List Value) :
    Holds fun i => Standard.keepDistinct (each i) seen index items := by
  induction items generalizing seen index with
  | nil => exact sequential.ok _
  | cons item rest ih =>
      apply sequential.bind (holds index item)
      intro found
      split
      · exact ih seen (index + 1)
      · exact sequential.map _ (ih (seen ++ [found]) (index + 1))

end

theorem reduceItems {combine : ι → Nat → Value → Value → Outcome}
    (holds : ∀ index item accumulated, Holds fun i => combine i index item accumulated)
    (accumulated : Value) (index : Nat) (items : List Value) :
    Holds fun i => Standard.reduceItems (combine i) accumulated index items := by
  induction items generalizing accumulated index with
  | nil => exact sequential.ok _
  | cons item rest ih =>
      apply sequential.bind (holds index item accumulated)
      intro next
      exact ih next (index + 1)

end Sequential

namespace Standard

theorem shallow_ok {α : Type} (value : α) : Shallow (.ok value) := nofun

theorem ordinary_raised {α : Type} {good : α → Prop} {result : Except Error α}
    (ends : Ends good Error.Refuses result) : Ordinary (raised result) := by
  cases result with
  | ok value => exact ordinary_ok value
  | error error =>
      apply Outcome.ordinary_raised
      rintro limit rfl
      exact ends

theorem raised_eq_ofExcept (result : Except Error Value) : raised result = ofExcept result := by
  cases result <;> rfl

end Standard

theorem Sequential.arrayFunction {ι : Type} {Holds : {α : Type} → (ι → Except Fault α) → Prop}
    (sequential : Sequential Holds) {calls : ι → Call}
    (asks : ∀ turn text extra, Holds fun i => (calls i).evaluate turn text extra)
    {name : String} {callee : Callable} (member : (name, callee) ∈ Standard.arrayFunctions)
    (arguments : List Value) : Holds fun i => callee (calls i) arguments := by
  have each : ∀ text index item, Holds fun i => Standard.evaluateItem (calls i) text index item :=
    fun text index item => asks index text _
  have items : ∀ name, Holds fun _ => Standard.raised (Standard.itemArguments name arguments) :=
    fun name => sequential.settled
      (Standard.ordinary_raised (Standard.ends_itemArguments name arguments))
  simp only [Standard.arrayFunctions, List.mem_cons, Prod.mk.injEq, List.not_mem_nil,
    or_false] at member
  rcases member with ⟨-, rfl⟩ | ⟨-, rfl⟩ | ⟨-, rfl⟩ | ⟨-, rfl⟩ | ⟨-, rfl⟩ | ⟨-, rfl⟩ | ⟨-, rfl⟩
  · apply sequential.bind (sequential.settled (Standard.ordinary_raised
      (Standard.ends_uniqueArguments arguments)))
    rintro ⟨items, text?⟩
    cases text? with
    | none =>
        have itself : ∀ (_ : Nat) item, Holds fun _ => (.ok item : Outcome) :=
          fun _ item => sequential.ok item
        exact sequential.map _ (sequential.keepDistinct itself [] 0 items)
    | some text => exact sequential.map _ (sequential.keepDistinct (each text) [] 0 items)
  · apply sequential.bind (items "filter")
    intro found
    exact sequential.map _ (sequential.keepWhere (each found.2) 0 found.1)
  · apply sequential.bind (items "map")
    intro found
    exact sequential.map _ (sequential.mapItems (each found.2) 0 found.1)
  · apply sequential.bind (items "find")
    intro found
    exact sequential.map _ (sequential.findWhere (each found.2) true 0 found.1)
  · apply sequential.bind (items "some")
    intro found
    exact sequential.map _ (sequential.findWhere (each found.2) true 0 found.1)
  · apply sequential.bind (items "every")
    intro found
    exact sequential.map _ (sequential.findWhere (each found.2) false 0 found.1)
  · apply sequential.bind (sequential.settled (Standard.ordinary_raised
      (Standard.ends_reduceArguments arguments)))
    rintro ⟨items, text⟩
    exact sequential.reduceItems (fun index item accumulated => asks index text _) _ 0 items

theorem Standard.sequences (clock : Calendar.Moment) : (registry clock).Sequences := by
  intro ι Holds sequential name callee found calls asks arguments
  have member := mem_functions found
  rw [functions, List.append_assoc] at member
  rcases List.mem_append.mp member with member | member
  · exact sequential.arrayFunction asks member arguments
  · obtain ⟨least, most, body, rfl, refuses⟩ := plain_of_mem member
    have checked : Ends (fun _ => True) Error.Refuses
        (checkArity name arguments.length least most >>= fun _ => body arguments) :=
      ends_bind (ends_checkArity name _ least most) fun _ _ =>
        refuses (fun _ => True) Value.hereditary_true arguments
    have settled := sequential.settled (ordinary_raised checked)
    rw [raised_eq_ofExcept] at settled
    exact settled

end Reckon
