import Mathlib
import Reckon.Proofs.Value.Json
import Reckon.Proofs.Value.Reach

/-!
Equality of values is a partial equivalence: it is symmetric and transitive, and what keeps a value
from being equal to itself is a double that is no number.  Keys that stand once make it symmetric,
since as many keys on the other side leave no room for a further one.  The order of entries matters
at no depth.
-/

namespace Reckon.Value

/-- A value is another one or a part of it at any depth, getters not asked. -/
inductive Contains : Value → Value → Prop
  | here (value : Value) : Contains value value
  | element {items : List Value} {item found : Value} (member : item ∈ items)
      (further : Contains item found) : Contains (.array items) found
  | entry {entries : Table Value} {entry : String × Value} {found : Value}
      (member : entry ∈ entries) (further : Contains entry.2 found) :
      Contains (.object entries) found

def Numeric (value : Value) : Prop :=
  ∀ number, Contains value (.number number) → number.isNaN = false

/-- Values that differ in nothing but the order of the entries of objects, at any depth. -/
inductive Rearranged : Value → Value → Prop
  | same (value : Value) : Rearranged value value
  | array {lefts rights : List Value} (count : lefts.length = rights.length)
      (inner : ∀ {left right}, (left, right) ∈ lefts.zip rights → Rearranged left right) :
      Rearranged (.array lefts) (.array rights)
  | object {lefts moved rights : Table Value} (keys : Table.keys lefts = Table.keys moved)
      (inner : ∀ {left right}, (left, right) ∈ lefts.zip moved → Rearranged left.2 right.2)
      (perm : moved.Perm rights) : Rearranged (.object lefts) (.object rights)

/-! ## What a value equals -/

section

variable {other : Value}

theorem null_beq_iff : (.null == other) = true ↔ other = .null := by
  constructor
  · intro same
    cases other with
    | null => rfl
    | _ => cases same
  · rintro rfl
    rfl

theorem number_beq_iff {number : Float} :
    (.number number == other) = true ↔
      ∃ found, other = .number found ∧ (number == found) = true := by
  constructor
  · intro same
    cases other with
    | number found => exact ⟨found, rfl, same⟩
    | _ => cases same
  · rintro ⟨found, rfl, same⟩
    exact same

theorem string_beq_iff {text : String} : (.string text == other) = true ↔ other = .string text := by
  constructor
  · intro same
    cases other with
    | string found => exact congrArg string (eq_of_beq (α := String) same).symm
    | _ => cases same
  · rintro rfl
    exact beq_self_eq_true text

theorem boolean_beq_iff {truth : Bool} :
    (.boolean truth == other) = true ↔ other = .boolean truth := by
  constructor
  · intro same
    cases other with
    | boolean found => exact congrArg boolean (eq_of_beq (α := Bool) same).symm
    | _ => cases same
  · rintro rfl
    exact beq_self_eq_true truth

theorem getter_beq_iff {identity : Identity} {yielded : Value} :
    (.getter identity yielded == other) = true ↔ ∃ found, other = .getter identity found := by
  constructor
  · intro same
    cases other with
    | getter _ found =>
        exact ⟨found, congrArg (getter · found) (eq_of_beq (α := Identity) same).symm⟩
    | _ => cases same
  · rintro ⟨found, rfl⟩
    exact beq_self_eq_true identity

theorem host_beq_iff {identity : Identity} {text : String} :
    (.host identity text == other) = true ↔ ∃ found, other = .host identity found := by
  constructor
  · intro same
    cases other with
    | host _ found =>
        exact ⟨found, congrArg (host · found) (eq_of_beq (α := Identity) same).symm⟩
    | _ => cases same
  · rintro ⟨found, rfl⟩
    exact beq_self_eq_true identity

theorem array_beq_iff {items : List Value} :
    (.array items == other) = true ↔ ∃ found, other = .array found ∧
      List.Forall₂ (fun left right => (left == right) = true) items found := by
  constructor
  · intro same
    cases other with
    | array found => exact ⟨found, rfl, (beqItems_iff items found).mp same⟩
    | _ => cases same
  · rintro ⟨found, rfl, inner⟩
    exact (beqItems_iff items found).mpr inner

theorem object_beq_iff {entries : Table Value} :
    (.object entries == other) = true ↔ ∃ found, other = .object found ∧
      entries.length = found.length ∧
      ∀ entry ∈ entries, ∃ value, Table.get? found entry.1 = some value ∧
        (entry.2 == value) = true := by
  constructor
  · intro same
    cases other with
    | object found =>
        obtain ⟨count, inner⟩ := Bool.and_eq_true_iff.mp same
        exact ⟨found, rfl, beq_iff_eq.mp count, (beqEntries_iff entries found).mp inner⟩
    | _ => cases same
  · rintro ⟨found, rfl, count, inner⟩
    exact Bool.and_eq_true_iff.mpr ⟨beq_iff_eq.mpr count, (beqEntries_iff entries found).mpr inner⟩

end

/-! ## Symmetry -/

/-- Keys that stand once and are all among as many others are all of them. -/
theorem mem_keys_of_count {lefts rights : Table Value} (distinct : (Table.keys lefts).Nodup)
    (count : lefts.length = rights.length)
    (found : ∀ entry ∈ lefts, entry.1 ∈ Table.keys rights) :
    ∀ entry ∈ rights, entry.1 ∈ Table.keys lefts := by
  have inside : Table.keys lefts ⊆ Table.keys rights := by
    intro key member
    obtain ⟨entry, original, rfl⟩ := List.mem_map.mp member
    exact found entry original
  have le : (Table.keys rights).length ≤ (Table.keys lefts).length := by
    simp [Table.keys, count]
  have perm := (distinct.subperm inside).perm_of_length_le le
  intro entry member
  exact perm.mem_iff.mpr (List.mem_map_of_mem member)

theorem beq_symm {left right : Value} (formed : left.WellFormed) (formedRight : right.WellFormed)
    (same : (left == right) = true) : (right == left) = true := by
  induction left using Value.induction generalizing right with
  | null =>
      cases null_beq_iff.mp same
      exact same
  | number value =>
      obtain ⟨found, rfl, equal⟩ := number_beq_iff.mp same
      exact number_beq_iff.mpr ⟨value, rfl, Binary64.beq_symm equal⟩
  | string text =>
      cases string_beq_iff.mp same
      exact same
  | boolean value =>
      cases boolean_beq_iff.mp same
      exact same
  | array items inner =>
      obtain ⟨found, rfl, each⟩ := array_beq_iff.mp same
      rw [wellFormed_array] at formed formedRight
      refine array_beq_iff.mpr ⟨items, rfl, ?_⟩
      rw [List.forall₂_iff_get] at each ⊢
      refine ⟨each.1.symm, ?_⟩
      intro index there here
      have member := List.get_mem items ⟨index, here⟩
      exact inner _ member (formed _ member) (formedRight _ (List.get_mem found ⟨index, there⟩))
        (each.2 index here there)
  | object entries inner =>
      obtain ⟨found, rfl, count, each⟩ := object_beq_iff.mp same
      obtain ⟨distinct, formed⟩ := wellFormed_object.mp formed
      obtain ⟨distinctRight, formedRight⟩ := wellFormed_object.mp formedRight
      refine object_beq_iff.mpr ⟨entries, rfl, count.symm, ?_⟩
      have known : ∀ entry ∈ entries, entry.1 ∈ Table.keys found := by
        intro entry member
        obtain ⟨value, read, -⟩ := each entry member
        exact List.mem_map.mpr ⟨_, Table.mem_of_get? read, rfl⟩
      intro entry member
      obtain ⟨⟨key, value⟩, original, keySame⟩ :=
        List.mem_map.mp (mem_keys_of_count distinct count known entry member)
      cases keySame
      obtain ⟨value', read, equal⟩ := each _ original
      have unique : some value' = some entry.2 :=
        read.symm.trans (Table.get?_of_mem distinctRight member)
      cases unique
      refine ⟨value, Table.get?_of_mem distinct original, ?_⟩
      exact inner _ original (formed _ original) (formedRight _ member) equal
  | getter identity yielded inner =>
      obtain ⟨found, rfl⟩ := getter_beq_iff.mp same
      exact getter_beq_iff.mpr ⟨yielded, rfl⟩
  | host identity text =>
      obtain ⟨found, rfl⟩ := host_beq_iff.mp same
      exact host_beq_iff.mpr ⟨text, rfl⟩

theorem beq_comm {left right : Value} (formed : left.WellFormed) (formedRight : right.WellFormed) :
    (left == right) = (right == left) :=
  Bool.eq_iff_iff.mpr ⟨beq_symm formed formedRight, beq_symm formedRight formed⟩

/-! ## Transitivity -/

theorem beq_trans {first second third : Value} (here : (first == second) = true)
    (there : (second == third) = true) : (first == third) = true := by
  induction first using Value.induction generalizing second third with
  | null =>
      cases null_beq_iff.mp here
      exact there
  | number value =>
      obtain ⟨middle, rfl, left⟩ := number_beq_iff.mp here
      obtain ⟨last, rfl, right⟩ := number_beq_iff.mp there
      exact number_beq_iff.mpr ⟨last, rfl, Binary64.beq_trans left right⟩
  | string text =>
      cases string_beq_iff.mp here
      exact there
  | boolean value =>
      cases boolean_beq_iff.mp here
      exact there
  | array items inner =>
      obtain ⟨middles, rfl, left⟩ := array_beq_iff.mp here
      obtain ⟨lasts, rfl, right⟩ := array_beq_iff.mp there
      refine array_beq_iff.mpr ⟨lasts, rfl, ?_⟩
      rw [List.forall₂_iff_get] at left right ⊢
      refine ⟨left.1.trans right.1, ?_⟩
      intro index least most
      have between : index < middles.length := left.1 ▸ least
      exact inner _ (List.get_mem items ⟨index, least⟩) (left.2 index least between)
        (right.2 index between most)
  | object entries inner =>
      obtain ⟨middles, rfl, count, left⟩ := object_beq_iff.mp here
      obtain ⟨lasts, rfl, further, right⟩ := object_beq_iff.mp there
      refine object_beq_iff.mpr ⟨lasts, rfl, count.trans further, ?_⟩
      intro entry member
      obtain ⟨middle, read, equal⟩ := left entry member
      obtain ⟨last, found, same⟩ := right _ (Table.mem_of_get? read)
      exact ⟨last, found, inner entry member equal same⟩
  | getter identity yielded inner =>
      obtain ⟨middle, rfl⟩ := getter_beq_iff.mp here
      obtain ⟨last, rfl⟩ := getter_beq_iff.mp there
      exact getter_beq_iff.mpr ⟨last, rfl⟩
  | host identity text =>
      obtain ⟨middle, rfl⟩ := host_beq_iff.mp here
      obtain ⟨last, rfl⟩ := host_beq_iff.mp there
      exact host_beq_iff.mpr ⟨last, rfl⟩

/-! ## Values that equal themselves -/

theorem numeric_number {number : Float} : Numeric (.number number) ↔ number.isNaN = false := by
  constructor
  · intro numeric
    exact numeric number (.here _)
  · rintro plain found ⟨⟩
    exact plain

theorem numeric_array {items : List Value} :
    Numeric (.array items) ↔ ∀ item ∈ items, Numeric item := by
  constructor
  · intro numeric item member number found
    exact numeric number (.element member found)
  · rintro numeric number ⟨⟩
    rename_i item member found
    exact numeric item member number found

theorem numeric_object {entries : Table Value} :
    Numeric (.object entries) ↔ ∀ entry ∈ entries, Numeric entry.2 := by
  constructor
  · intro numeric entry member number found
    exact numeric number (.entry member found)
  · rintro numeric number ⟨⟩
    rename_i entry member found
    exact numeric entry member number found

theorem beq_self_iff {value : Value} (formed : value.WellFormed) :
    (value == value) = true ↔ value.Numeric := by
  induction value using Value.induction with
  | null =>
      refine iff_of_true (null_beq_iff.mpr rfl) ?_
      rintro number ⟨⟩
  | number value =>
      rw [numeric_number, number_beq_iff]
      simp [Binary64.beq_self_eq_not_isNaN]
  | string text =>
      refine iff_of_true (string_beq_iff.mpr rfl) ?_
      rintro number ⟨⟩
  | boolean value =>
      refine iff_of_true (boolean_beq_iff.mpr rfl) ?_
      rintro number ⟨⟩
  | array items inner =>
      rw [numeric_array, array_beq_iff]
      rw [wellFormed_array] at formed
      have each : List.Forall₂ (fun left right => (left == right) = true) items items ↔
          ∀ item ∈ items, item.Numeric := by
        rw [List.forall₂_same]
        exact forall₂_congr fun item member => inner item member (formed item member)
      rw [← each]
      constructor
      · rintro ⟨found, same, equal⟩
        cases same
        exact equal
      · intro equal
        exact ⟨items, rfl, equal⟩
  | object entries inner =>
      rw [numeric_object, object_beq_iff]
      obtain ⟨distinct, formed⟩ := wellFormed_object.mp formed
      have each : (∀ entry ∈ entries, (entry.2 == entry.2) = true) ↔
          ∀ entry ∈ entries, entry.2.Numeric :=
        forall₂_congr fun entry member => inner entry member (formed entry member)
      have own : ∀ entry ∈ entries, Table.get? entries entry.1 = some entry.2 :=
        fun entry member => Table.get?_of_mem distinct member
      rw [← each]
      constructor
      · rintro ⟨found, same, -, equal⟩ entry member
        cases same
        obtain ⟨value, read, equal⟩ := equal entry member
        cases read.symm.trans (own entry member)
        exact equal
      · intro equal
        exact ⟨entries, rfl, rfl, fun entry member =>
          ⟨entry.2, own entry member, equal entry member⟩⟩
  | getter identity yielded inner =>
      refine iff_of_true (getter_beq_iff.mpr ⟨yielded, rfl⟩) ?_
      rintro number ⟨⟩
  | host identity text =>
      refine iff_of_true (host_beq_iff.mpr ⟨text, rfl⟩) ?_
      rintro number ⟨⟩

/-! ## Entries in another order -/

section

variable {α β : Type}

theorem forall_mem_congr_of_forall₂ {first : α → Prop} {second : β → Prop} {lefts : List α}
    {rights : List β}
    (pairs : List.Forall₂ (fun left right => first left ↔ second right) lefts rights) :
    (∀ left ∈ lefts, first left) ↔ ∀ right ∈ rights, second right := by
  induction pairs with
  | nil => simp
  | cons pair pairs ih => rw [List.forall_mem_cons, List.forall_mem_cons, pair, ih]

theorem forall₂_congr_left {related : α → β → Prop} {lefts rights : List α} {others : List β}
    (pairs : List.Forall₂ (fun left right => ∀ other, related left other ↔ related right other)
      lefts rights) :
    List.Forall₂ related lefts others ↔ List.Forall₂ related rights others := by
  induction pairs generalizing others with
  | nil => rfl
  | cons pair pairs ih =>
      cases others with
      | nil => simp
      | cons other others => rw [List.forall₂_cons, List.forall₂_cons, pair, ih]

end

/-- Entries one by one: the same keys, and values in a relation. -/
theorem forall₂_entries (related : Value → Value → Prop) {lefts moved : Table Value}
    (keys : Table.keys lefts = Table.keys moved)
    (inner : ∀ {left right}, (left, right) ∈ lefts.zip moved → related left.2 right.2) :
    List.Forall₂ (fun left right => left.1 = right.1 ∧ related left.2 right.2) lefts moved := by
  have names : List.Forall₂ (· = ·) (Table.keys lefts) (Table.keys moved) := by
    rw [keys]
    exact List.forall₂_refl _
  rw [Table.keys, Table.keys, List.forall₂_map_left_iff, List.forall₂_map_right_iff] at names
  rw [List.forall₂_iff_zip] at names ⊢
  exact ⟨names.1, fun pair => ⟨names.2 pair, inner pair⟩⟩

theorem Rearranged.beq_iff {left right : Value} (moved : Rearranged left right) (other : Value) :
    (left == other) = true ↔ (right == other) = true := by
  induction moved generalizing other with
  | same value => rfl
  | array count inner ih =>
      have pairs := List.forall₂_iff_zip.mpr ⟨count, ih⟩
      rw [array_beq_iff, array_beq_iff]
      exact exists_congr fun found => and_congr_right fun _ => forall₂_congr_left pairs
  | @object lefts moved rights keys inner perm ih =>
      have pairs := forall₂_entries
        (fun left right => ∀ other, (left == other) = true ↔ (right == other) = true) keys ih
      have count : lefts.length = rights.length := pairs.length_eq.trans perm.length_eq
      rw [object_beq_iff, object_beq_iff, count]
      refine exists_congr fun found => and_congr_right fun _ => and_congr_right fun _ => ?_
      have each := pairs.imp fun left right pair => show
          (∃ value, Table.get? found left.1 = some value ∧ (left.2 == value) = true) ↔
            ∃ value, Table.get? found right.1 = some value ∧ (right.2 == value) = true by
        simp only [pair.1, pair.2]
      rw [forall_mem_congr_of_forall₂ each]
      exact forall_congr' fun entry => imp_congr_left perm.mem_iff

theorem Rearranged.wellFormed_iff {left right : Value} (moved : Rearranged left right) :
    left.WellFormed ↔ right.WellFormed := by
  induction moved with
  | same value => rfl
  | array count inner ih =>
      rw [wellFormed_array, wellFormed_array]
      exact forall_mem_congr_of_forall₂ (List.forall₂_iff_zip.mpr ⟨count, ih⟩)
  | @object lefts moved rights keys inner perm ih =>
      have each :=
        (forall₂_entries (fun left right => left.WellFormed ↔ right.WellFormed) keys ih).imp
          fun _ _ pair => pair.2
      have names : (Table.keys moved).Nodup ↔ (Table.keys rights).Nodup :=
        (perm.map Prod.fst).nodup_iff
      rw [wellFormed_object, wellFormed_object, keys, names, forall_mem_congr_of_forall₂ each]
      exact and_congr_right fun _ => forall_congr' fun entry => imp_congr_left perm.mem_iff

/-- Equality is symmetric and transitive; a value equals itself exactly if no part of it is a double
that is no number, getters and host values being what they are; and the order of entries, at any
depth and on either side, makes no difference. -/
theorem beq_isPartialEquivalence :
    (∀ left right : Value, left.WellFormed → right.WellFormed → (left == right) = (right == left)) ∧
      (∀ first second third : Value,
        (first == second) = true → (second == third) = true → (first == third) = true) ∧
      (∀ value : Value, value.WellFormed → ((value == value) = true ↔ value.Numeric)) ∧
      ∀ left right moved shifted : Value, left.WellFormed → right.WellFormed →
        Rearranged left moved → Rearranged right shifted →
          (moved == shifted) = (left == right) := by
  refine ⟨fun _ _ => beq_comm, fun _ _ _ => beq_trans, fun _ => beq_self_iff, ?_⟩
  intro left right moved shifted formed formedRight leftMoved rightShifted
  have formedMoved := leftMoved.wellFormed_iff.mp formed
  have formedShifted := rightShifted.wellFormed_iff.mp formedRight
  calc (moved == shifted) = (shifted == moved) := beq_comm formedMoved formedShifted
    _ = (right == moved) := Bool.eq_iff_iff.mpr (rightShifted.beq_iff moved).symm
    _ = (moved == right) := beq_comm formedRight formedMoved
    _ = (left == right) := Bool.eq_iff_iff.mpr (leftMoved.beq_iff right).symm

/-- The entries of two objects, one inside the other, in another order; and a double that is no
number inside an array. -/
theorem beq_isPartialEquivalence_nested :
    let value : Value := .object [("a", .string "x"),
      ("b", .array [.object [("c", .number 1), ("d", .host (.supplied 0) "h")]])]
    let moved : Value := .object
      [("b", .array [.object [("d", .host (.supplied 0) "h"), ("c", .number 1)]]),
        ("a", .string "x")]
    let missing : Value := .array [.null, .number (0 / 0)]
    value.WellFormed ∧ Rearranged value moved ∧ value.Numeric ∧ (moved == value) = true ∧
      missing.WellFormed ∧ ¬missing.Numeric ∧ (missing == missing) = false := by
  intro value moved missing
  have formed : value.WellFormed := by
    simp only [value, wellFormed_object, wellFormed_array, List.forall_mem_cons]
    refine ⟨by decide, ?_, ⟨⟨by decide, ?_, ?_, nofun⟩, nofun⟩, nofun⟩ <;> rintro entries ⟨⟩
  have inner : Rearranged (.object [("c", .number 1), ("d", .host (.supplied 0) "h")])
      (.object [("d", .host (.supplied 0) "h"), ("c", .number 1)]) := by
    refine .object rfl ?_ (.swap _ _ _)
    intro left right pair
    simp only [List.zip_cons_cons, List.zip_nil_left, List.mem_cons, List.not_mem_nil, or_false,
      Prod.mk.injEq] at pair
    rcases pair with ⟨rfl, rfl⟩ | ⟨rfl, rfl⟩ <;> exact .same _
  have rearranged : Rearranged value moved := by
    refine .object (by rfl) ?_ (.swap ("b", _) ("a", _) [])
    intro left right pair
    simp only [List.zip_cons_cons, List.zip_nil_left, List.mem_cons, List.not_mem_nil, or_false,
      Prod.mk.injEq] at pair
    rcases pair with ⟨rfl, rfl⟩ | ⟨rfl, rfl⟩
    · exact .same _
    · refine .array rfl ?_
      intro left right pair
      simp only [List.zip_cons_cons, List.zip_nil_left, List.mem_cons, List.not_mem_nil, or_false,
        Prod.mk.injEq] at pair
      obtain ⟨rfl, rfl⟩ := pair
      exact inner
  have numeric : value.Numeric := by
    simp only [value, numeric_object, numeric_array, List.forall_mem_cons, numeric_number]
    refine ⟨?_, ⟨⟨by decide +kernel, ?_, nofun⟩, nofun⟩, nofun⟩ <;> rintro number ⟨⟩
  obtain ⟨-, -, reflexive, invariant⟩ := beq_isPartialEquivalence
  have missingFormed : missing.WellFormed := by
    simp only [missing, wellFormed_array, List.forall_mem_cons]
    refine ⟨?_, ?_, nofun⟩ <;> rintro entries ⟨⟩
  have unlike : (missing == missing) = false := by decide +kernel
  refine ⟨formed, rearranged, numeric, ?_, missingFormed, ?_, unlike⟩
  · rw [invariant value value moved value formed formed rearranged (.same value)]
    exact (reflexive value formed).mpr numeric
  · rw [← reflexive missing missingFormed, unlike]
    exact Bool.false_ne_true

end Reckon.Value
