import Reckon.Options
import Reckon.Proofs.Grammar.Hereditary
import Reckon.Proofs.Standard.Arguments
import Reckon.Proofs.Standard.Calls

/-!
What the standard functions and operators make of values keeps each property that values share with
their parts, if the evaluations that they ask for do.
-/

namespace Reckon

open Outcome Value

/-- Operators and functions that keep a property, the latter if the evaluations that they ask for
keep it, with the errors that they may raise. -/
structure Registry.Keeps (registry : Registry) (good : Value → Prop) (admits : Error → Prop) : Prop
    extends registry.KeepsOperators good admits where
  function : ∀ {name callee}, registry.function? name = some callee → ∀ call : Call,
    (∀ turn text extra, (∀ entry ∈ extra, good entry.2) →
      Ends good (Fault.Raises admits) (call.evaluate turn text extra)) →
    ∀ arguments, (∀ argument ∈ arguments, good argument) →
      Ends good (Fault.Raises admits) (callee call arguments)

namespace Standard

/-- What the expression of a reduction sees besides the bindings of the call. -/
def reduceBindings (index : Nat) (item accumulated : Value) : Table Value :=
  itemBindings index item ++ [("_curr_", accumulated)]

variable {good : Value → Prop} {admits : Error → Prop}

section

variable {each : Nat → Value → Outcome}
  (keeps : ∀ index item, good item → Ends good (Fault.Raises admits) (each index item))
  {items : List Value} (holds : ∀ item ∈ items, good item) (index : Nat)

include keeps holds

theorem ends_keepWhere :
    Ends (fun kept => ∀ item ∈ kept, good item) (Fault.Raises admits)
      (keepWhere each index items) := by
  induction items generalizing index with
  | nil => nofun
  | cons item rest ih =>
      obtain ⟨here, later⟩ := List.forall_mem_cons.mp holds
      refine ends_bind (keeps index item here) fun verdict _ => ?_
      refine ends_bind (ih later (index + 1)) fun kept among => ?_
      cases verdict.isTruthy with
      | true => exact List.forall_mem_cons.mpr ⟨here, among⟩
      | false => exact among

theorem ends_mapItems :
    Ends (fun results => ∀ result ∈ results, good result) (Fault.Raises admits)
      (mapItems each index items) := by
  induction items generalizing index with
  | nil => nofun
  | cons item rest ih =>
      obtain ⟨here, later⟩ := List.forall_mem_cons.mp holds
      refine ends_bind (keeps index item here) fun result first => ?_
      refine ends_bind (ih later (index + 1)) fun results others => ?_
      exact List.forall_mem_cons.mpr ⟨first, others⟩

theorem ends_findWhere (wanted : Bool) :
    Ends (fun found => ∀ item ∈ found, good item) (Fault.Raises admits)
      (findWhere wanted each index items) := by
  induction items generalizing index with
  | nil => nofun
  | cons item rest ih =>
      obtain ⟨here, later⟩ := List.forall_mem_cons.mp holds
      refine ends_bind (keeps index item here) fun verdict _ => ?_
      split
      · rintro found ⟨⟩
        exact here
      · exact ih later (index + 1)

theorem ends_keepDistinct (seen : List Value) :
    Ends (fun kept => ∀ item ∈ kept, good item) (Fault.Raises admits)
      (keepDistinct each seen index items) := by
  induction items generalizing seen index with
  | nil => nofun
  | cons item rest ih =>
      obtain ⟨here, later⟩ := List.forall_mem_cons.mp holds
      refine ends_bind (keeps index item here) fun key _ => ?_
      split
      · exact ih later (index + 1) seen
      · refine ends_bind (ih later (index + 1) (seen ++ [key])) fun kept among => ?_
        exact List.forall_mem_cons.mpr ⟨here, among⟩

end

theorem ends_reduceItems {combine : Nat → Value → Value → Outcome} {items : List Value}
    (keeps : ∀ index, ∀ item ∈ items, ∀ accumulated, good accumulated →
      Ends good (Fault.Raises admits) (combine index item accumulated))
    {accumulated : Value} (start : good accumulated) (index : Nat) :
    Ends good (Fault.Raises admits) (reduceItems combine accumulated index items) := by
  induction items generalizing accumulated index with
  | nil => exact start
  | cons item rest ih =>
      refine ends_bind (keeps index item List.mem_cons_self accumulated start) fun next holds => ?_
      exact ih (fun index item member => keeps index item (List.mem_cons_of_mem _ member)) holds _

theorem ends_raised (refuses : ∀ error : Error, error.Refuses → admits error) {α : Type}
    {value : α → Prop} {result : Except Error α} (ends : Ends value Error.Refuses result) :
    Ends value (Fault.Raises admits) (raised result) := by
  cases result with
  | ok found => exact ends
  | error error => exact refuses error ends

section

variable (hereditary : Hereditary good)

include hereditary

theorem holds_argument {arguments : List Value} (holds : ∀ argument ∈ arguments, good argument)
    (index : Nat) : good (argument arguments index) := by
  refine hereditary.force ?_
  cases given : arguments[index]? with
  | none => exact hereditary.null
  | some found => exact holds found (List.mem_of_getElem? given)

theorem holds_itemBindings (index : Nat) {item : Value} (here : good item) :
    ∀ entry ∈ itemBindings index item, good entry.2 :=
  List.forall_mem_cons.mpr ⟨here, List.forall_mem_singleton.mpr (hereditary.ofNat index)⟩

theorem holds_reduceBindings (index : Nat) {item accumulated : Value} (here : good item)
    (before : good accumulated) :
    ∀ entry ∈ reduceBindings index item accumulated, good entry.2 :=
  List.forall_mem_append.mpr
    ⟨holds_itemBindings hereditary index here, List.forall_mem_singleton.mpr before⟩

theorem holds_add (left right : Value) : good (add left right) := by
  dsimp only [add]
  split
  · exact hereditary.string _
  · exact hereditary.number _

/-- The standard operators give truth values, numbers and texts. -/
theorem holds_operator {symbol : String} {precedence : Precedence}
    {meaning : Value → Value → Value} (member : (symbol, precedence, meaning) ∈ binaryOperators)
    (left right : Value) : good (meaning left right) := by
  simp only [binaryOperators, List.mem_cons, Prod.mk.injEq, List.not_mem_nil, or_false] at member
  rcases member with ⟨-, -, rfl⟩ | ⟨-, -, rfl⟩ | ⟨-, -, rfl⟩ | ⟨-, -, rfl⟩ | ⟨-, -, rfl⟩ |
    ⟨-, -, rfl⟩ | ⟨-, -, rfl⟩ | ⟨-, -, rfl⟩ | ⟨-, -, rfl⟩ | ⟨-, -, rfl⟩ | ⟨-, -, rfl⟩ |
    ⟨-, -, rfl⟩ | ⟨-, -, rfl⟩ | ⟨-, -, rfl⟩
  · exact hereditary.boolean _
  · exact hereditary.boolean _
  · exact hereditary.boolean _
  · exact hereditary.boolean _
  · exact hereditary.boolean _
  · exact hereditary.boolean _
  · exact hereditary.boolean _
  · exact hereditary.boolean _
  · exact holds_add hereditary left right
  · exact hereditary.number _
  · exact hereditary.number _
  · exact hereditary.number _
  · exact hereditary.number _
  · exact hereditary.number _

theorem holds_unaryOperator {symbol : String} {meaning : Value → Value}
    (member : (symbol, meaning) ∈ unaryOperators) (operand : Value) : good (meaning operand) := by
  simp only [unaryOperators, List.mem_cons, Prod.mk.injEq, List.not_mem_nil, or_false] at member
  rcases member with ⟨-, rfl⟩ | ⟨-, rfl⟩
  · exact hereditary.boolean _
  · exact hereditary.number _

section

variable {call : Call} (evaluates : ∀ turn text extra, (∀ entry ∈ extra, good entry.2) →
  Ends good (Fault.Raises admits) (call.evaluate turn text extra))

include evaluates

theorem ends_evaluateItem (text : String) (index : Nat) (item : Value) (here : good item) :
    Ends good (Fault.Raises admits) (evaluateItem call text index item) :=
  evaluates index text _ (holds_itemBindings hereditary index here)

/-- The results of the functions on arrays are elements, what the evaluations gave, arrays of these,
truth values, null, or the value that a reduction started from. -/
theorem ends_arrayFunction {name : String} {callee : Callable}
    (member : (name, callee) ∈ arrayFunctions)
    (refuses : ∀ error : Error, error.Refuses → admits error) {arguments : List Value}
    (holds : ∀ argument ∈ arguments, good argument) :
    Ends good (Fault.Raises admits) (callee call arguments) := by
  have each := ends_evaluateItem hereditary evaluates
  have items {items : List Value} (given : argument arguments 0 = .array items) :
      ∀ item ∈ items, good item :=
    hereditary.item (given ▸ holds_argument hereditary holds 0)
  have read := fun name => ends_raised refuses (ends_itemArguments name arguments)
  simp only [arrayFunctions, List.mem_cons, Prod.mk.injEq, List.not_mem_nil, or_false] at member
  rcases member with ⟨-, rfl⟩ | ⟨-, rfl⟩ | ⟨-, rfl⟩ | ⟨-, rfl⟩ | ⟨-, rfl⟩ | ⟨-, rfl⟩ | ⟨-, rfl⟩
  · refine ends_bind (ends_raised refuses (ends_uniqueArguments arguments)) ?_
    rintro ⟨xs, text?⟩ given
    cases text? with
    | none =>
        have itself : ∀ (index : Nat) item, good item →
            Ends good (Fault.Raises admits) (.ok item : Outcome) := fun _ _ here => here
        exact ends_bind (ends_keepDistinct itself (items given) 0 []) fun _ => hereditary.array
    | some text =>
        exact ends_bind (ends_keepDistinct (each text) (items given) 0 [])
          fun _ => hereditary.array
  · refine ends_bind (read "filter") fun found given => ?_
    exact ends_bind (ends_keepWhere (each found.2) (items given) 0) fun _ => hereditary.array
  · refine ends_bind (read "map") fun found given => ?_
    exact ends_bind (ends_mapItems (each found.2) (items given) 0) fun _ => hereditary.array
  · refine ends_bind (read "find") fun found given => ?_
    refine ends_bind (ends_findWhere (each found.2) (items given) 0 true) fun found here => ?_
    cases found with
    | none => exact hereditary.null
    | some item => exact here item rfl
  · refine ends_bind (read "some") fun found given => ?_
    exact ends_bind (ends_findWhere (each found.2) (items given) 0 true)
      fun _ _ => hereditary.boolean _
  · refine ends_bind (read "every") fun found given => ?_
    exact ends_bind (ends_findWhere (each found.2) (items given) 0 false)
      fun _ _ => hereditary.boolean _
  · refine ends_bind (ends_raised refuses (ends_reduceArguments arguments)) ?_
    rintro ⟨xs, text⟩ given
    have combined : ∀ index, ∀ item ∈ xs, ∀ accumulated, good accumulated →
        Ends good (Fault.Raises admits)
          (call.evaluate index text (reduceBindings index item accumulated)) := by
      intro index item member accumulated before
      exact evaluates index text _
        (holds_reduceBindings hereditary index (items given item member) before)
    exact ends_reduceItems combined (holds_argument hereditary holds 2) 0

end

/-- A standard engine keeps a hereditary property if the operators among its options do. -/
theorem keeps_of_build {clock : Calendar.Moment} {options : Options} {engine : Engine}
    (built : Engine.build (registry clock) options = .ok engine)
    (refuses : ∀ error : Error, error.Refuses → admits error)
    (own : ∀ entry ∈ options.unaryOperators, ∀ operand, good operand →
      Ends good admits (entry.2 operand)) : engine.registry.Keeps good admits where
  unary := by
    intro symbol operator registered operand holds
    rcases unaryOperator_cases built registered with added | ⟨meaning, member, rfl⟩
    · exact own _ added operand holds
    · exact holds_unaryOperator hereditary member operand
  binary := by
    intro symbol operator registered left right _ _
    obtain ⟨precedence, meaning, member, rfl⟩ := operator_cases built registered
    exact holds_operator hereditary member left right
  function := by
    intro name callee registered call evaluates arguments holds
    have same : engine.registry.function? name = (registry clock).function? name := by
      rw [Engine.registry_of_build built]
      rfl
    have member := mem_functions (same ▸ registered)
    rw [functions, List.append_assoc] at member
    rcases List.mem_append.mp member with member | member
    · exact ends_arrayFunction hereditary evaluates member refuses holds
    · obtain ⟨least, most, body, rfl, ends⟩ := plain_of_mem member
      have checked : Ends good Error.Refuses
          (checkArity name arguments.length least most >>= fun _ => body arguments) :=
        ends_bind (ends_checkArity name _ least most) fun _ _ => ends good hereditary arguments
      have result := ends_raised refuses checked
      rw [raised_eq_ofExcept] at result
      exact result

end

end Standard

end Reckon
