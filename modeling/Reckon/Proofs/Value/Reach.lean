import Reckon.Value

/-!
What a value is made of: elements, entries, and what getters yield.
-/

namespace Reckon.Value

/-- What holds of a value if it holds of its parts, holds of all values. -/
@[elab_as_elim]
theorem induction {motive : Value → Prop} (null : motive .null)
    (number : ∀ value, motive (.number value)) (string : ∀ text, motive (.string text))
    (boolean : ∀ value, motive (.boolean value))
    (array : ∀ items, (∀ item ∈ items, motive item) → motive (.array items))
    (object : ∀ entries, (∀ entry ∈ entries, motive entry.2) → motive (.object entries))
    (getter : ∀ identity yielded, motive yielded → motive (.getter identity yielded))
    (host : ∀ identity text, motive (.host identity text)) (value : Value) : motive value :=
  @Value.rec motive (fun items => ∀ item ∈ items, motive item)
    (fun entries => ∀ entry ∈ entries, motive entry.2) (fun entry => motive entry.2)
    null number string boolean array object getter host
    nofun (fun _ _ first rest => List.forall_mem_cons.mpr ⟨first, rest⟩)
    nofun (fun _ _ first rest => List.forall_mem_cons.mpr ⟨first, rest⟩)
    (fun _ _ item => item) value

/-- A value is another one or a part of it at any depth. -/
inductive Reaches : Value → Value → Prop
  | here (value : Value) : Reaches value value
  | element {items : List Value} {item found : Value} (member : item ∈ items)
      (further : Reaches item found) : Reaches (.array items) found
  | entry {entries : Table Value} {entry : String × Value} {found : Value}
      (member : entry ∈ entries) (further : Reaches entry.2 found) : Reaches (.object entries) found
  | yielded {identity : Identity} {yielded found : Value} (further : Reaches yielded found) :
      Reaches (.getter identity yielded) found

section

variable {items : List Value} {entries : Table Value} {identity : Identity} {yielded found : Value}

theorem reaches_array_iff :
    Reaches (.array items) found ↔ found = .array items ∨ ∃ item ∈ items, Reaches item found := by
  constructor
  · rintro ⟨⟩
    · exact .inl rfl
    · rename_i item member further
      exact .inr ⟨item, member, further⟩
  · rintro (rfl | ⟨item, member, further⟩)
    · exact .here _
    · exact .element member further

theorem reaches_object_iff :
    Reaches (.object entries) found ↔
      found = .object entries ∨ ∃ entry ∈ entries, Reaches entry.2 found := by
  constructor
  · rintro ⟨⟩
    · exact .inl rfl
    · rename_i entry member further
      exact .inr ⟨entry, member, further⟩
  · rintro (rfl | ⟨entry, member, further⟩)
    · exact .here _
    · exact .entry member further

theorem reaches_getter_iff :
    Reaches (.getter identity yielded) found ↔
      found = .getter identity yielded ∨ Reaches yielded found := by
  constructor
  · rintro ⟨⟩
    · exact .inl rfl
    · rename_i further
      exact .inr further
  · rintro (rfl | further)
    · exact .here _
    · exact .yielded further

end

/-! ## Values without host values -/

def HostFree (value : Value) : Prop :=
  ∀ identity text, ¬Reaches value (.host identity text)

theorem not_hostFree_host (identity : Identity) (text : String) :
    ¬HostFree (.host identity text) :=
  fun free => free identity text (.here _)

theorem hostFree_array {items : List Value} :
    HostFree (.array items) ↔ ∀ item ∈ items, HostFree item := by
  simp only [HostFree, reaches_array_iff, reduceCtorEq, false_or, not_exists, not_and]
  exact ⟨fun free item member identity text => free identity text item member,
    fun free identity text item member => free item member identity text⟩

theorem hostFree_object {entries : Table Value} :
    HostFree (.object entries) ↔ ∀ entry ∈ entries, HostFree entry.2 := by
  simp only [HostFree, reaches_object_iff, reduceCtorEq, false_or, not_exists, not_and]
  exact ⟨fun free entry member identity text => free identity text entry member,
    fun free identity text entry member => free entry member identity text⟩

theorem hostFree_getter {identity : Identity} {yielded : Value} :
    HostFree (.getter identity yielded) ↔ HostFree yielded := by
  simp only [HostFree, reaches_getter_iff, reduceCtorEq, false_or]

/-! ## Values without getters -/

def GetterFree (value : Value) : Prop :=
  ∀ identity yielded, ¬Reaches value (.getter identity yielded)

theorem not_getterFree_getter (identity : Identity) (yielded : Value) :
    ¬GetterFree (.getter identity yielded) :=
  fun free => free identity yielded (.here _)

theorem GetterFree.force {value : Value} (free : GetterFree value) : value.force = value := by
  cases value with
  | getter identity yielded => exact absurd free (not_getterFree_getter identity yielded)
  | _ => rfl

theorem getterFree_array {items : List Value} :
    GetterFree (.array items) ↔ ∀ item ∈ items, GetterFree item := by
  simp only [GetterFree, reaches_array_iff, reduceCtorEq, false_or, not_exists, not_and]
  exact ⟨fun free item member identity yielded => free identity yielded item member,
    fun free identity yielded item member => free item member identity yielded⟩

theorem getterFree_object {entries : Table Value} :
    GetterFree (.object entries) ↔ ∀ entry ∈ entries, GetterFree entry.2 := by
  simp only [GetterFree, reaches_object_iff, reduceCtorEq, false_or, not_exists, not_and]
  exact ⟨fun free entry member identity yielded => free identity yielded entry member,
    fun free identity yielded entry member => free entry member identity yielded⟩

/-! ## Values whose objects have each key once -/

/-- Each object that is a part of the value has each of its keys once, as writing entries one after
another leaves it. -/
def WellFormed (value : Value) : Prop :=
  ∀ entries, Reaches value (.object entries) → (Table.keys entries).Nodup

theorem wellFormed_array {items : List Value} :
    WellFormed (.array items) ↔ ∀ item ∈ items, WellFormed item := by
  constructor
  · intro formed item member entries reached
    exact formed entries (.element member reached)
  · intro formed entries reached
    obtain ⟨⟨⟩⟩ | ⟨item, member, further⟩ := reaches_array_iff.mp reached
    exact formed item member entries further

theorem wellFormed_object {entries : Table Value} :
    WellFormed (.object entries) ↔
      (Table.keys entries).Nodup ∧ ∀ entry ∈ entries, WellFormed entry.2 := by
  constructor
  · intro formed
    refine ⟨formed entries (.here _), ?_⟩
    intro entry member inner reached
    exact formed inner (.entry member reached)
  · rintro ⟨distinct, formed⟩ inner reached
    obtain ⟨⟨⟩⟩ | ⟨entry, member, further⟩ := reaches_object_iff.mp reached
    · exact distinct
    · exact formed entry member inner further

theorem wellFormed_getter {identity : Identity} {yielded : Value} :
    WellFormed (.getter identity yielded) ↔ WellFormed yielded := by
  simp only [WellFormed, reaches_getter_iff, reduceCtorEq, false_or]

end Reckon.Value
