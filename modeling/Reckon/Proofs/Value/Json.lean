import Reckon.Proofs.Json.Reader
import Reckon.Value.Json

/-!
Values made of data alone go through documents and come back equal: a number that is written as an
integer is the double nearest to it, and an object comes back with its entries in another order,
which equality does not see.
-/

namespace Reckon

namespace Value

/-- Data through and through: finite numbers, no getters, no host values, and each key of an object
once. -/
inductive IsData : Value → Prop
  | null : IsData .null
  | boolean (value : Bool) : IsData (.boolean value)
  | string (text : String) : IsData (.string text)
  | number {value : Float} (finite : Binary64.IsFinite value) : IsData (.number value)
  | array {items : List Value} (inner : ∀ item ∈ items, IsData item) : IsData (.array items)
  | object {entries : Table Value} (distinct : (Table.keys entries).Nodup)
      (inner : ∀ entry ∈ entries, IsData entry.2) : IsData (.object entries)

/-! ## Conversions of lists and tables -/

@[simp]
theorem ofItems_eq (items : List Json) : ofJson.ofItems items = items.map ofJson := by
  induction items with
  | nil => rfl
  | cons item rest ih => simp [ofJson.ofItems, ih]

@[simp]
theorem ofEntries_eq (entries : Table Json) :
    ofJson.ofEntries entries = Table.mapValues ofJson entries := by
  induction entries with
  | nil => rfl
  | cons entry rest ih =>
      rw [ofJson.ofEntries, ih]
      rfl

@[simp]
theorem itemsToJson_eq (items : List Value) : itemsToJson items = items.map toJson := by
  induction items with
  | nil => rfl
  | cons item rest ih => simp [itemsToJson, ih]

@[simp]
theorem entriesToJson_eq (entries : Table Value) :
    entriesToJson entries = Table.mapValues toJson entries := by
  induction entries with
  | nil => rfl
  | cons entry rest ih =>
      rw [entriesToJson, ih]
      rfl

/-! ## Equality on both sides -/

theorem beqItems_iff (lefts rights : List Value) :
    beqItems lefts rights = true ↔
      List.Forall₂ (fun left right => (left == right) = true) lefts rights := by
  induction lefts generalizing rights with
  | nil => cases rights <;> simp [beqItems]
  | cons left lefts ih =>
      cases rights with
      | nil => simp [beqItems]
      | cons right rights =>
          rw [beqItems, Bool.and_eq_true, ih, List.forall₂_cons]
          rfl

theorem beqEntries_iff (lefts rights : Table Value) :
    beqEntries lefts rights = true ↔
      ∀ entry ∈ lefts, ∃ right, Table.get? rights entry.1 = some right ∧
        (entry.2 == right) = true := by
  induction lefts with
  | nil => simp [beqEntries]
  | cons entry rest ih =>
      rw [beqEntries, Bool.and_eq_true, ih, List.forall_mem_cons]
      apply and_congr_left'
      cases Table.get? rights entry.1 with
      | none => simp
      | some right =>
          simp only [Option.some.injEq, exists_eq_left']
          rfl

/-- Two values equal each other, whichever one is asked. -/
structure Same (left right : Value) : Prop where
  forward : (left == right) = true
  backward : (right == left) = true

namespace Same

theorem array {lefts rights : List Value} (inner : List.Forall₂ Same lefts rights) :
    Same (.array lefts) (.array rights) where
  forward := (beqItems_iff lefts rights).mpr (inner.imp fun _ _ same => same.forward)
  backward := (beqItems_iff rights lefts).mpr (inner.flip.imp fun _ _ same => same.backward)

/-- Entries that were changed one by one, whatever their order is now. -/
theorem object {entries renewed : Table Value} {change : Value → Value}
    (distinct : (Table.keys entries).Nodup) (perm : renewed.Perm (Table.mapValues change entries))
    (inner : ∀ entry ∈ entries, Same (change entry.2) entry.2) :
    Same (.object renewed) (.object entries) := by
  have count : renewed.length = entries.length := by
    rw [perm.length_eq, Table.mapValues, List.length_map]
  have distinctNow : (Table.keys renewed).Nodup := by
    apply Table.nodup_keys_of_perm perm
    rwa [Table.keys_mapValues]
  constructor
  · apply Bool.and_eq_true_iff.mpr ⟨beq_iff_eq.mpr count, _⟩
    apply (beqEntries_iff _ _).mpr
    intro entry member
    obtain ⟨found, original, changed⟩ := Table.mem_mapValues.mp (perm.mem_iff.mp member)
    refine ⟨found, Table.get?_of_mem distinct original, ?_⟩
    rw [← changed]
    exact (inner _ original).forward
  · apply Bool.and_eq_true_iff.mpr ⟨beq_iff_eq.mpr count.symm, _⟩
    apply (beqEntries_iff _ _).mpr
    intro entry member
    have changed : (entry.1, change entry.2) ∈ renewed :=
      perm.mem_iff.mpr (Table.mem_mapValues.mpr ⟨entry.2, member, rfl⟩)
    exact ⟨_, Table.get?_of_mem distinctNow changed, (inner _ member).backward⟩

end Same

/-! ## There and back -/

theorem same_number {number : Float} (finite : Binary64.IsFinite number) :
    Same (ofJson (numberToJson number)) (.number number) := by
  have equal : ∃ renewed, ofJson (numberToJson number) = .number renewed ∧
      (renewed == number) = true := by
    unfold numberToJson
    split
    · rename_i whole found
      obtain ⟨read, small⟩ := Option.filter_eq_some_iff.mp found
      exact ⟨_, rfl, Binary64.ofInt_beq_of_toInt? read (of_decide_eq_true small)⟩
    · rw [Json.ofDouble_of_isFinite finite]
      exact ⟨_, rfl, finite.beq_self⟩
  obtain ⟨renewed, read, same⟩ := equal
  rw [read]
  exact ⟨same, Binary64.beq_symm same⟩

theorem IsData.same {value : Value} (data : IsData value) : Same (ofJson (toJson value)) value := by
  induction data with
  | null => exact ⟨rfl, rfl⟩
  | boolean value => exact ⟨beq_self_eq_true value, beq_self_eq_true value⟩
  | string text => exact ⟨beq_self_eq_true text, beq_self_eq_true text⟩
  | number finite => exact same_number finite
  | array inner ih =>
      rw [toJson, ofJson, itemsToJson_eq, ofItems_eq, List.map_map]
      apply Same.array
      exact List.forall₂_map_left_iff.mpr (List.forall₂_same.mpr ih)
  | @object entries distinct inner ih =>
      rw [toJson, ofJson, entriesToJson_eq, ofEntries_eq]
      have perm : (Table.mapValues ofJson (Table.sorted (Table.mapValues toJson entries))).Perm
          (Table.mapValues (fun item => ofJson (toJson item)) entries) := by
        rw [← Table.mapValues_mapValues toJson]
        exact (Table.sorted_perm _).map _
      exact Same.object distinct perm ih

theorem wellFormed_numberToJson (number : Float) : (numberToJson number).WellFormed := by
  unfold numberToJson
  split
  · rename_i whole found
    obtain ⟨-, small⟩ := Option.filter_eq_some_iff.mp found
    have small : whole.natAbs < 9007199254740992 := of_decide_eq_true small
    apply Json.WellFormed.integer
    · unfold Binary64.minWord
      omega
    · have most : Json.maxNatural = 18446744073709551615 := rfl
      omega
  · exact Json.wellFormed_ofDouble number

theorem IsData.wellFormed_toJson {value : Value} (data : IsData value) :
    (toJson value).WellFormed := by
  induction data with
  | null => exact .null
  | boolean value => exact .boolean value
  | string text => exact .string text
  | number => exact wellFormed_numberToJson _
  | array inner ih =>
      rw [toJson, itemsToJson_eq]
      exact .array (List.forall_mem_map.mpr ih)
  | object distinct inner ih =>
      rw [toJson, entriesToJson_eq]
      apply Json.WellFormedEntries.sorted
      exact ⟨by rwa [Table.keys_mapValues], Table.forall_mapValues ih⟩

theorem isData_ofJson {document : Json} (formed : document.WellFormed) :
    IsData (ofJson document) := by
  induction formed with
  | null => exact .null
  | boolean value => exact .boolean value
  | string text => exact .string text
  | integer least most =>
      apply IsData.number
      apply Binary64.isFinite_ofInt
      unfold Binary64.minWord at least
      have most' : Json.maxNatural = 18446744073709551615 := rfl
      omega
  | real finite => exact .number finite
  | array inner ih =>
      rw [ofJson, ofItems_eq]
      exact .array (List.forall_mem_map.mpr ih)
  | object ascending inner ih =>
      rw [ofJson, ofEntries_eq]
      apply IsData.object
      · rw [Table.keys_mapValues]
        exact ascending.nodup_keys
      · exact Table.forall_mapValues ih

/-- Data becomes a document and comes back equal.  What a document stands for is data, so it equals
what its own document stands for; and every text that can be read is such a document. -/
theorem ofJson_toJson_beq :
    (∀ value, IsData value →
      (toJson value).WellFormed ∧ (ofJson (toJson value) == value) = true) ∧
    (∀ document : Json, document.WellFormed →
      IsData (ofJson document) ∧ (ofJson document == ofJson (toJson (ofJson document))) = true) ∧
    ∀ text document, Json.read? text = some document → document.WellFormed := by
  refine ⟨fun value data => ?_, fun document formed => ?_, fun text document read => ?_⟩
  · exact ⟨data.wellFormed_toJson, data.same.forward⟩
  · have data := isData_ofJson formed
    exact ⟨data, data.same.backward⟩
  · exact Json.wellFormed_of_read? read

/-- Negative zero comes back as zero, which equals it, and the entries come back in order. -/
theorem ofJson_toJson_beq_object :
    let value : Value :=
      .object [("b", .array [.number (-0), .number 2.5, .null]), ("a", .boolean true)]
    IsData value ∧ (toJson value).WellFormed ∧ (ofJson (toJson value) == value) = true ∧
      ∃ document, Json.read? "\x7b\"b\": [-0, 2.5], \"a\": 12\x7d" = some document ∧
        (ofJson document == ofJson (toJson (ofJson document))) = true := by
  have data : IsData
      (.object [("b", .array [.number (-0), .number 2.5, .null]), ("a", .boolean true)]) := by
    apply IsData.object (by decide)
    have item : ∀ item ∈ [Value.number (-0), .number 2.5, .null], IsData item := by
      simp only [List.forall_mem_cons]
      exact ⟨.number (by decide +kernel), .number (by decide +kernel), .null, nofun⟩
    simp only [List.forall_mem_cons]
    exact ⟨.array item, .boolean true, nofun⟩
  have readable : (Json.read? "\x7b\"b\": [-0, 2.5], \"a\": 12\x7d").isSome = true := by
    decide +kernel
  obtain ⟨document, read⟩ := Option.isSome_iff_exists.mp readable
  obtain ⟨there, back, formed⟩ := ofJson_toJson_beq
  obtain ⟨written, same⟩ := there _ data
  exact ⟨data, written, same, document, read, (back document (formed _ document read)).2⟩

end Value

end Reckon
