import Mathlib.Data.List.Forall2
import Reckon.Proofs.Engine.Frame
import Reckon.Proofs.Standard.Calls

/-!
Functions that ask an expression about each element of an array.  They see one sequence of verdicts,
true, false or a fault for each element, and differ in where they stop: the ones that need every
verdict fail with the first fault of all, the others only with a fault that no decisive verdict
comes before.
-/

namespace Reckon

open Outcome

/-- The fault with which something ends, if it does not end with a value. -/
def Outcome.fault? {α : Type} : Except Fault α → Option Fault
  | .ok _ => none
  | .error fault => some fault

@[simp]
theorem Outcome.fault?_ok {α : Type} (value : α) : fault? (.ok value) = none := rfl

@[simp]
theorem Outcome.fault?_error {α : Type} (fault : Fault) :
    fault? (.error fault : Except Fault α) = some fault := rfl

namespace Standard

/-- The truth of what is found for the element at a place. -/
def verdict (test : Nat → Value → Outcome) (place : Value × Nat) : Except Fault Bool :=
  (test place.2 place.1).map Value.isTruthy

section

variable (test : Nat → Value → Outcome) (index : Nat) (items : List Value)

theorem keepWhere_eq :
    keepWhere test index items =
      match (items.zipIdx index).findSome? fun place => fault? (verdict test place) with
      | some fault => .error fault
      | none => .ok (((items.zipIdx index).filter fun place => verdict test place = .ok true).map
          Prod.fst) := by
  induction items generalizing index with
  | nil => rfl
  | cons item rest ih =>
      unfold keepWhere
      rw [ih, List.zipIdx_cons, List.findSome?_cons, List.filter_cons]
      cases here : test index item with
      | error fault => simp [verdict, here]
      | ok value =>
          have found : verdict test (item, index) = .ok value.isTruthy := by simp [verdict, here]
          rw [found, ok_bind, fault?_ok]
          cases (rest.zipIdx (index + 1)).findSome? fun place => fault? (verdict test place) with
          | some fault => rfl
          | none => cases truth : value.isTruthy <;> simp

theorem mapItems_eq :
    match (items.zipIdx index).findSome? fun place => fault? (test place.2 place.1) with
    | some fault => mapItems test index items = .error fault
    | none => ∃ results, mapItems test index items = .ok results ∧
        List.Forall₂ (fun place result => test place.2 place.1 = .ok result) (items.zipIdx index)
          results := by
  induction items generalizing index with
  | nil => exact ⟨[], rfl, .nil⟩
  | cons item rest ih =>
      have further := ih (index + 1)
      unfold mapItems
      rw [List.zipIdx_cons, List.findSome?_cons]
      cases here : test index item with
      | error fault => simp
      | ok value =>
          simp only [fault?_ok, ok_bind]
          generalize (rest.zipIdx (index + 1)).findSome? _ = first at further ⊢
          cases first with
          | some fault =>
              dsimp only at further ⊢
              rw [further]
              rfl
          | none =>
              obtain ⟨results, mapped, each⟩ := further
              refine ⟨value :: results, ?_, .cons here each⟩
              rw [mapped]
              rfl

theorem findWhere_eq (wanted : Bool) :
    findWhere wanted test index items =
      match (items.zipIdx index).find? fun place => verdict test place ≠ .ok !wanted with
      | some place => (verdict test place).map fun _ => some place.1
      | none => .ok none := by
  induction items generalizing index with
  | nil => rfl
  | cons item rest ih =>
      unfold findWhere
      rw [ih, List.zipIdx_cons, List.find?_cons]
      cases here : test index item with
      | error fault => simp [verdict, here]
      | ok value =>
          have found : verdict test (item, index) = .ok value.isTruthy := by simp [verdict, here]
          rw [ok_bind]
          cases truth : value.isTruthy <;> cases wanted <;> simp [found, truth]

/-- Where all elements are judged, the first one with a true verdict is found. -/
theorem findWhere_of_judged
    (judged : ∀ place ∈ items.zipIdx index, ∃ truth, verdict test place = .ok truth) :
    findWhere true test index items =
      .ok (((items.zipIdx index).filter fun place => verdict test place = .ok true).map
        Prod.fst).head? := by
  induction items generalizing index with
  | nil => rfl
  | cons item rest ih =>
      rw [List.zipIdx_cons, List.forall_mem_cons] at judged
      obtain ⟨⟨truth, found⟩, judged⟩ := judged
      unfold findWhere
      rw [ih (index + 1) judged, List.zipIdx_cons, List.filter_cons]
      cases here : test index item with
      | error fault => simp [verdict, here] at found
      | ok value =>
          have same : value.isTruthy = truth := by simpa [verdict, here] using found
          rw [ok_bind, found, same]
          cases truth <;> simp

theorem findWhere_bind (wanted : Bool) (change : Option Value → Value) :
    (findWhere wanted test index items >>= fun found => .ok (change found)) =
      match (items.zipIdx index).find? fun place => verdict test place ≠ .ok !wanted with
      | some place => (verdict test place).map fun _ => change (some place.1)
      | none => .ok (change none) := by
  rw [findWhere_eq]
  cases (items.zipIdx index).find? fun place => verdict test place ≠ .ok !wanted with
  | none => rfl
  | some place => cases judged : verdict test place <;> simp [judged]

end

section

variable (call : Call) (items : List Value) (text : String)

theorem filterItems_eq :
    filterItems call [.array items, .string text] =
      match items.zipIdx.findSome? fun place => fault? (verdict (evaluateItem call text) place) with
      | some fault => .error fault
      | none => .ok (.array ((items.zipIdx.filter fun place =>
          verdict (evaluateItem call text) place = .ok true).map Prod.fst)) := by
  have whole : filterItems call [.array items, .string text] =
      (keepWhere (evaluateItem call text) 0 items >>= fun kept => .ok (.array kept)) := rfl
  rw [whole, keepWhere_eq]
  cases items.zipIdx.findSome? fun place => fault? (verdict (evaluateItem call text) place) <;> rfl

theorem findItem_eq :
    findItem call [.array items, .string text] =
      match items.zipIdx.find? fun place =>
        verdict (evaluateItem call text) place ≠ .ok false with
      | some place => (verdict (evaluateItem call text) place).map fun _ => place.1
      | none => .ok .null :=
  findWhere_bind (evaluateItem call text) 0 items true fun found => found.getD .null

theorem someItem_eq :
    someItem call [.array items, .string text] =
      match items.zipIdx.find? fun place =>
        verdict (evaluateItem call text) place ≠ .ok false with
      | some place => (verdict (evaluateItem call text) place).map fun _ => .boolean true
      | none => .ok (.boolean false) :=
  findWhere_bind (evaluateItem call text) 0 items true fun found => .boolean found.isSome

theorem everyItem_eq :
    everyItem call [.array items, .string text] =
      match items.zipIdx.find? fun place => verdict (evaluateItem call text) place ≠ .ok true with
      | some place => (verdict (evaluateItem call text) place).map fun _ => .boolean false
      | none => .ok (.boolean true) :=
  findWhere_bind (evaluateItem call text) 0 items false fun found => .boolean found.isNone

theorem mapEach_eq :
    match items.zipIdx.findSome? fun place =>
      fault? (evaluateItem call text place.2 place.1) with
    | some fault => mapEach call [.array items, .string text] = .error fault
    | none => ∃ results, mapEach call [.array items, .string text] = .ok (.array results) ∧
        List.Forall₂ (fun place result => evaluateItem call text place.2 place.1 = .ok result)
          items.zipIdx results := by
  have whole : mapEach call [.array items, .string text] =
      (mapItems (evaluateItem call text) 0 items >>= fun results => .ok (.array results)) := rfl
  have mapped := mapItems_eq (evaluateItem call text) 0 items
  rw [whole]
  generalize items.zipIdx.findSome? _ = first at mapped ⊢
  cases first with
  | some fault =>
      dsimp only at mapped ⊢
      rw [mapped]
      rfl
  | none =>
      obtain ⟨results, mapped, each⟩ := mapped
      refine ⟨results, ?_, each⟩
      rw [mapped]
      rfl

/-- Where all elements are judged, what `filter` keeps tells what the others give. -/
theorem searches_of_judged
    (judged : ∀ place ∈ items.zipIdx, ∃ truth, verdict (evaluateItem call text) place = .ok truth) :
    let arguments : List Value := [.array items, .string text]
    let kept := (items.zipIdx.filter fun place =>
      verdict (evaluateItem call text) place = .ok true).map Prod.fst
    filterItems call arguments = .ok (.array kept) ∧
      findItem call arguments = .ok (kept.head?.getD .null) ∧
      someItem call arguments = .ok (.boolean (!kept.isEmpty)) ∧
      everyItem call arguments = .ok (.boolean (kept.length == items.length)) := by
  intro arguments kept
  have unfailing :
      (items.zipIdx.findSome? fun place => fault? (verdict (evaluateItem call text) place)) =
        none := by
    rw [List.findSome?_eq_none_iff]
    intro place member
    obtain ⟨truth, found⟩ := judged place member
    rw [found, fault?_ok]
  have sought : findWhere true (evaluateItem call text) 0 items = .ok kept.head? :=
    findWhere_of_judged (evaluateItem call text) 0 items judged
  have whole :
      (items.zipIdx.find? fun place => verdict (evaluateItem call text) place ≠ .ok true) = none ↔
        kept.length = items.length := by
    rw [List.find?_eq_none, List.length_map, ← List.length_zipIdx (l := items) (i := 0),
      List.length_filter_eq_length_iff]
    simp
  refine ⟨?_, ?_, ?_, ?_⟩
  · rw [filterItems_eq, unfailing]
  · calc findItem call arguments
        = findWhere true (evaluateItem call text) 0 items >>= fun found =>
            .ok (found.getD .null) := rfl
      _ = .ok (kept.head?.getD .null) := by rw [sought, ok_bind]
  · calc someItem call arguments
        = findWhere true (evaluateItem call text) 0 items >>= fun found =>
            .ok (.boolean found.isSome) := rfl
      _ = .ok (.boolean (!kept.isEmpty)) := by
        have seen : ∀ list : List Value, list.head?.isSome = !list.isEmpty := fun list => by
          cases list <;> rfl
        rw [sought, ok_bind, seen]
  · rw [everyItem_eq]
    cases stopped :
        items.zipIdx.find? fun place => verdict (evaluateItem call text) place ≠ .ok true with
    | none => simp [whole.mp stopped]
    | some place =>
        have short : kept.length ≠ items.length := fun full => by
          rw [whole.mpr full] at stopped
          cases stopped
        obtain ⟨truth, found⟩ := judged place (List.mem_of_find?_eq_some stopped)
        simp [found, short]

end

end Standard

/-- The functions that ask an expression about each element go by one sequence of verdicts, the
truths of what the expression gives with the element and its index bound, or faults.  `filter` fails
with the first fault of all and keeps the elements with the verdict true in their order.  `find` and
`some` stop at the first verdict that is not false, `every` at the first that is not true, and fail
with it if it is a fault.  So where no verdict is a fault, what `filter` keeps tells what the others
give.  `map` fails with the first fault, or gives one result for each element in order. -/
theorem Engine.searches_agree (engine : Engine) (levels : Nat) (site : List Nat)
    (tokens : Array String) (bindings : Table Value) (position : Nat) (items : List Value)
    (text : String) :
    let call := engine.call levels site tokens bindings position
    let arguments : List Value := [.array items, .string text]
    let places := items.zipIdx
    let outcome (place : Value × Nat) : Outcome :=
      engine.evaluateIn levels (2 * place.2 :: position :: site) text
        (Table.insertAll bindings [("_item_", place.1), ("_index_", .ofNat place.2)])
    let verdict (place : Value × Nat) : Except Fault Bool := (outcome place).map Value.isTruthy
    let kept := (places.filter fun place => verdict place = .ok true).map Prod.fst
    (Standard.filterItems call arguments =
        match places.findSome? fun place => fault? (verdict place) with
        | some fault => .error fault
        | none => .ok (.array kept)) ∧
      (Standard.findItem call arguments =
        match places.find? fun place => verdict place ≠ .ok false with
        | some place => (verdict place).map fun _ => place.1
        | none => .ok .null) ∧
      (Standard.someItem call arguments =
        match places.find? fun place => verdict place ≠ .ok false with
        | some place => (verdict place).map fun _ => .boolean true
        | none => .ok (.boolean false)) ∧
      (Standard.everyItem call arguments =
        match places.find? fun place => verdict place ≠ .ok true with
        | some place => (verdict place).map fun _ => .boolean false
        | none => .ok (.boolean true)) ∧
      ((∀ place ∈ places, ∃ truth, verdict place = .ok truth) →
        Standard.filterItems call arguments = .ok (.array kept) ∧
          Standard.findItem call arguments = .ok (kept.head?.getD .null) ∧
          Standard.someItem call arguments = .ok (.boolean (!kept.isEmpty)) ∧
          Standard.everyItem call arguments = .ok (.boolean (kept.length == items.length))) ∧
      match places.findSome? fun place => fault? (outcome place) with
      | some fault => Standard.mapEach call arguments = .error fault
      | none => ∃ results, Standard.mapEach call arguments = .ok (.array results) ∧
          List.Forall₂ (fun place result => outcome place = .ok result) places results := by
  intro call arguments places outcome verdict kept
  exact ⟨Standard.filterItems_eq call items text, Standard.findItem_eq call items text,
    Standard.someItem_eq call items text, Standard.everyItem_eq call items text,
    Standard.searches_of_judged call items text, Standard.mapEach_eq call items text⟩

/-- `trim` gives an empty text, another one and an error; the searches that stop at the second
element do not see the third. -/
theorem Engine.searches_agree_trim :
    let call := (Engine.standardWith ⟨0, 0, 0⟩ [] none).call 1 [] #[] [] 0
    let two : List Value := [.string "", .string "a"]
    let three : List Value := [.string "", .string "a", .null]
    let text : Value := .string "trim(_item_)"
    let refused := raise (.function "trim" (some "argument 1 must be a string, got null"))
    Standard.filterItems call [.array three, text] = refused ∧
      Standard.mapEach call [.array three, text] = refused ∧
      Standard.findItem call [.array three, text] = .ok (.string "a") ∧
      Standard.someItem call [.array three, text] = .ok (.boolean true) ∧
      Standard.everyItem call [.array three, text] = .ok (.boolean false) ∧
      Standard.filterItems call [.array two, text] = .ok (.array [.string "a"]) ∧
      Standard.findItem call [.array two, text] = .ok (.string "a") ∧
      Standard.someItem call [.array two, text] = .ok (.boolean true) ∧
      Standard.everyItem call [.array two, text] = .ok (.boolean false) := by
  intro call two three text refused
  have judged : ∀ place ∈ two.zipIdx, ∃ truth,
      Standard.verdict (Standard.evaluateItem call "trim(_item_)") place = .ok truth := by
    simp only [two, call, List.zipIdx_cons, List.zipIdx_nil, List.forall_mem_cons]
    exact ⟨⟨false, rfl⟩, ⟨true, rfl⟩, nofun⟩
  obtain ⟨filter, find, any, every, -, map⟩ :=
    searches_agree (Engine.standardWith ⟨0, 0, 0⟩ [] none) 1 [] #[] [] 0 three "trim(_item_)"
  obtain ⟨-, -, -, -, all, -⟩ :=
    searches_agree (Engine.standardWith ⟨0, 0, 0⟩ [] none) 1 [] #[] [] 0 two "trim(_item_)"
  obtain ⟨filterTwo, findTwo, someTwo, everyTwo⟩ := all judged
  simp only [call, two, three, text, refused] at *
  refine ⟨filter.trans rfl, map, find.trans rfl, any.trans rfl, every.trans rfl,
    filterTwo.trans rfl, findTwo.trans rfl, someTwo.trans rfl, everyTwo.trans rfl⟩

end Reckon
