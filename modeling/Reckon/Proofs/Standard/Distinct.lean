import Mathlib
import Reckon.Proofs.Grammar.Parse
import Reckon.Proofs.Standard.Calls
import Reckon.Proofs.Value.Equality
import Reckon.Standard.ArrayFunctions

/-!
The first of all elements with equal keys.  An element is kept if its key equals the key of no
element kept before it.  Since equality is symmetric and transitive, an element whose key does not
even equal itself is always kept.
-/

namespace Reckon.Standard

open Outcome

/-- The keys, counted by place, of the elements that a call of `unique` is about: the elements
themselves, or what an expression gives for them. -/
inductive KeyedBy (call : Call) (items : List Value) (key : Nat → Value) : List Value → Prop
  | itself {list : Value} (forced : list.force = .array items)
      (same : ∀ place ∈ items.zipIdx, key place.2 = place.1) : KeyedBy call items key [list]
  | evaluated {list expression : Value} {text : String} (forced : list.force = .array items)
      (asked : expression.force = .string text)
      (gives : ∀ place ∈ items.zipIdx, evaluateItem call text place.2 place.1 = .ok (key place.2)) :
      KeyedBy call items key [list, expression]

theorem pairwise_zipIdx {α : Type} (items : List α) (index : Nat) :
    (items.zipIdx index).Pairwise fun first second => first.2 < second.2 := by
  apply List.pairwise_map.mp
  rw [List.zipIdx_map_snd]
  exact List.pairwise_lt_range'

/-- The places of elements whose keys equal none of those seen, nor the key of a place that is kept
before. -/
theorem keepDistinct_places {evaluated : Nat → Value → Outcome} {key : Nat → Value}
    (seen : List Value) (index : Nat) (items : List Value)
    (gives : ∀ place ∈ items.zipIdx index, evaluated place.2 place.1 = .ok (key place.2)) :
    ∃ kept : List (Value × Nat), kept.Sublist (items.zipIdx index) ∧
      keepDistinct evaluated seen index items = .ok (kept.map Prod.fst) ∧
      ∀ place ∈ items.zipIdx index, place ∈ kept ↔
        (∀ found ∈ seen, (found == key place.2) = false) ∧
          ∀ earlier ∈ kept, earlier.2 < place.2 → (key earlier.2 == key place.2) = false := by
  induction items generalizing seen index with
  | nil => exact ⟨[], .slnil, rfl, nofun⟩
  | cons item rest ih =>
      have here : evaluated index item = .ok (key index) := gives (item, index) List.mem_cons_self
      have behind : ∀ place ∈ rest.zipIdx (index + 1), index < place.2 :=
        fun place member => List.le_snd_of_mem_zipIdx member
      have further : ∀ place ∈ rest.zipIdx (index + 1),
          evaluated place.2 place.1 = .ok (key place.2) :=
        fun place member => gives place (List.mem_cons_of_mem _ member)
      unfold keepDistinct
      rw [here, ok_bind]
      by_cases known : seen.any (· == key index) = true
      · obtain ⟨kept, sublist, result, mem_iff⟩ := ih seen (index + 1) further
        refine ⟨kept, .cons _ sublist, ?_, ?_⟩
        · rw [if_pos known, result]
        · intro place member
          rcases List.mem_cons.mp member with rfl | member
          · obtain ⟨found, foundMember, equal⟩ := List.any_eq_true.mp known
            refine iff_of_false ?_ ?_
            · intro present
              exact Nat.lt_irrefl index (behind _ (sublist.subset present))
            · rintro ⟨unseen, -⟩
              exact absurd equal (Bool.eq_false_iff.mp (unseen found foundMember))
          · exact mem_iff place member
      · obtain ⟨kept, sublist, result, mem_iff⟩ := ih (seen ++ [key index]) (index + 1) further
        refine ⟨(item, index) :: kept, .cons_cons _ sublist, ?_, ?_⟩
        · rw [if_neg known, result]
          rfl
        · intro place member
          rcases List.mem_cons.mp member with rfl | member
          · refine iff_of_true List.mem_cons_self ⟨?_, ?_⟩
            · intro found foundMember
              rw [Bool.not_eq_true, List.any_eq_false] at known
              exact Bool.eq_false_iff.mpr (known found foundMember)
            · intro earlier earlierMember before
              rcases List.mem_cons.mp earlierMember with rfl | present
              · exact absurd before (Nat.lt_irrefl index)
              · exact absurd before (Nat.lt_asymm (behind _ (sublist.subset present)))
          · have other : place ∈ (item, index) :: kept ↔ place ∈ kept := by
              rw [List.mem_cons, or_iff_right]
              rintro rfl
              exact Nat.lt_irrefl index (behind _ member)
            rw [other, mem_iff place member, List.forall_mem_append, List.forall_mem_singleton,
              List.forall_mem_cons]
            have before := behind place member
            tauto

theorem keepDistinct_of_pairwise (seen : List Value) (index : Nat) {items : List Value}
    (unseen : ∀ found ∈ seen, ∀ item ∈ items, (found == item) = false)
    (apart : items.Pairwise fun first second => (first == second) = false) :
    keepDistinct (fun _ item => .ok item) seen index items = .ok items := by
  induction items generalizing seen index with
  | nil => rfl
  | cons item rest ih =>
      obtain ⟨first, apart⟩ := List.pairwise_cons.mp apart
      have fresh : seen.any (· == item) = false := by
        rw [List.any_eq_false]
        intro found member
        exact Bool.eq_false_iff.mp (unseen found member item List.mem_cons_self)
      have kept := ih (seen ++ [item]) (index + 1) (by
        intro found member other further
        rcases List.mem_append.mp member with old | new
        · exact unseen found old other (List.mem_cons_of_mem _ further)
        · rw [List.mem_singleton.mp new]
          exact first other further) apart
      unfold keepDistinct
      rw [ok_bind, fresh, if_neg Bool.false_ne_true, kept]
      rfl

/-- A call of `unique` is about its elements and their keys. -/
theorem KeyedBy.uniqueItems_eq {call : Call} {items arguments : List Value} {key : Nat → Value}
    (keyed : KeyedBy call items key arguments) :
    ∃ evaluated : Nat → Value → Outcome,
      uniqueItems call arguments = (do return .array (← keepDistinct evaluated [] 0 items)) ∧
        ∀ place ∈ items.zipIdx, evaluated place.2 place.1 = .ok (key place.2) := by
  cases keyed with
  | @itself list forced same =>
      refine ⟨fun _ item => .ok item, ?_, fun place member => congrArg _ (same place member).symm⟩
      have read : arrayArgument "unique" [list] 0 = .ok items := by
        simp [arrayArgument, argument, forced]
      simp [uniqueItems, read, raised, checkArity, optionalString]
  | @evaluated list expression text forced asked gives =>
      refine ⟨evaluateItem call text, ?_, gives⟩
      have read : arrayArgument "unique" [list, expression] 0 = .ok items := by
        simp [arrayArgument, argument, forced]
      have given : stringArgument "unique" [list, expression] 1 = .ok text := by
        simp [stringArgument, argument, asked]
      simp [uniqueItems, read, given, raised, checkArity, optionalString]

/-- Of the elements of an array those are kept, in their order, whose keys equal no key of an
element kept before.  So no two keys that are kept are equal, each element left out has an equal key
kept before it, an element whose key does not equal itself is kept, and elements that are their own
keys stay as they are when they are gone through again. -/
theorem uniqueItems_keeps_first {call : Call} {items arguments : List Value} {key : Nat → Value}
    (keyed : KeyedBy call items key arguments)
    (formed : ∀ place ∈ items.zipIdx, (key place.2).WellFormed) :
    ∃ kept : List (Value × Nat), kept.Sublist items.zipIdx ∧
      uniqueItems call arguments = .ok (.array (kept.map Prod.fst)) ∧
      (∀ place ∈ items.zipIdx, place ∈ kept ↔
        ∀ earlier ∈ kept, earlier.2 < place.2 → (key earlier.2 == key place.2) = false) ∧
      (kept.Pairwise fun first second =>
        (key first.2 == key second.2) = false ∧ (key second.2 == key first.2) = false) ∧
      (∀ place ∈ items.zipIdx, place ∉ kept →
        ∃ earlier ∈ kept, earlier.2 < place.2 ∧ (key earlier.2 == key place.2) = true) ∧
      (∀ place ∈ items.zipIdx, (key place.2 == key place.2) = false → place ∈ kept) ∧
      (arguments.length = 1 → ∀ again : Call,
        uniqueItems again [.array (kept.map Prod.fst)] = .ok (.array (kept.map Prod.fst))) := by
  obtain ⟨evaluated, whole, gives⟩ := keyed.uniqueItems_eq
  obtain ⟨kept, sublist, result, places⟩ := keepDistinct_places [] 0 items gives
  have mem_iff : ∀ place ∈ items.zipIdx, place ∈ kept ↔
      ∀ earlier ∈ kept, earlier.2 < place.2 → (key earlier.2 == key place.2) = false := by
    intro place member
    rw [places place member]
    exact and_iff_right nofun
  have apart : kept.Pairwise fun first second =>
      (key first.2 == key second.2) = false ∧ (key second.2 == key first.2) = false := by
    apply ((pairwise_zipIdx items 0).sublist sublist).imp_of_mem
    intro first second firstKept secondKept before
    have unequal :=
      (mem_iff second (sublist.subset secondKept)).mp secondKept first firstKept before
    refine ⟨unequal, ?_⟩
    rw [Value.beq_comm (formed second (sublist.subset secondKept))
      (formed first (sublist.subset firstKept))]
    exact unequal
  refine ⟨kept, sublist, ?_, mem_iff, apart, ?_, ?_, ?_⟩
  · rw [whole, result]
    rfl
  · intro place member dropped
    rw [mem_iff place member] at dropped
    push Not at dropped
    obtain ⟨earlier, earlierKept, before, equal⟩ := dropped
    exact ⟨earlier, earlierKept, before, Bool.not_eq_false _ ▸ equal⟩
  · intro place member unlike
    rw [mem_iff place member]
    intro earlier earlierKept before
    -- were the keys equal, the later one would equal itself by way of the earlier one
    by_contra equal
    rw [Bool.not_eq_false] at equal
    have back := Value.beq_symm (formed earlier (sublist.subset earlierKept))
      (formed place member) equal
    exact absurd (Value.beq_trans back equal) (Bool.eq_false_iff.mp unlike)
  · intro single again
    have own : ∀ place ∈ items.zipIdx, key place.2 = place.1 := by
      cases keyed with
      | itself forced same => exact same
      | evaluated => cases single
    have items_apart : (kept.map Prod.fst).Pairwise fun first second =>
        (first == second) = false := by
      rw [List.pairwise_map]
      apply apart.imp_of_mem
      intro first second firstKept secondKept unequal
      rw [← own first (sublist.subset firstKept), ← own second (sublist.subset secondKept)]
      exact unequal.1
    have same := keepDistinct_of_pairwise [] 0 nofun items_apart
    simp [uniqueItems, arrayArgument, argument, Value.force, raised, checkArity, optionalString,
      same]

/-- Of two elements with the key `true` the first one is kept; of two whose key is no number,
both. -/
theorem uniqueItems_keeps_first_unequal :
    let call := (Engine.standardWith ⟨0, 0, 0⟩ [] none).call 1 [] #[] [] 0
    let element (name : String) (key : Value) : Value := .object [("k", key), ("n", .string name)]
    let items := [element "a" (.boolean true), element "b" (.boolean true),
      element "c" (.number (0 / 0)), element "d" (.number (0 / 0))]
    let key (place : Nat) : Value := if place < 2 then .boolean true else .number (0 / 0)
    KeyedBy call items key [.array items, .string "_item_.k"] ∧
      (∀ place ∈ items.zipIdx, (key place.2).WellFormed) ∧
      ∃ kept : List (Value × Nat),
        uniqueItems call [.array items, .string "_item_.k"] = .ok (.array (kept.map Prod.fst)) ∧
        (element "b" (.boolean true), 1) ∉ kept ∧ (element "c" (.number (0 / 0)), 2) ∈ kept ∧
        (element "d" (.number (0 / 0)), 3) ∈ kept := by
  intro call element items key
  have keyed : KeyedBy call items key [.array items, .string "_item_.k"] := by
    apply KeyedBy.evaluated rfl rfl
    simp only [items, call, element, key, List.zipIdx_cons, List.zipIdx_nil, List.forall_mem_cons]
    exact ⟨rfl, rfl, rfl, rfl, nofun⟩
  have formed : ∀ place ∈ items.zipIdx, (key place.2).WellFormed := by
    rintro ⟨item, place⟩ -
    simp only [key]
    split <;> rintro entries ⟨⟩
  have unlike : (Value.number (0 / 0) == .number (0 / 0)) = false := by decide +kernel
  obtain ⟨kept, -, result, mem_iff, -, -, own, -⟩ := uniqueItems_keeps_first keyed formed
  refine ⟨keyed, formed, kept, result, ?_, ?_, ?_⟩
  · rw [mem_iff (element "b" (.boolean true), 1) (by simp [items])]
    intro apart
    have first : (element "a" (.boolean true), 0) ∈ kept := by
      rw [mem_iff (element "a" (.boolean true), 0) (by simp [items])]
      exact fun earlier _ before => absurd before (Nat.not_lt_zero _)
    cases apart _ first Nat.zero_lt_one
  · exact own _ (by simp [items]) unlike
  · exact own _ (by simp [items]) unlike

end Reckon.Standard
