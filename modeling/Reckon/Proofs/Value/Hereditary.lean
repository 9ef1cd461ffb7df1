import Reckon.Grammar
import Reckon.Proofs.Table
import Reckon.Proofs.Value.Reach

/-!
Properties that values share with their parts.  What formulas take apart and put together keeps
them.
-/

namespace Reckon

theorem Grammar.forall_mem_indexed {good : Value → Prop} {items : List Value}
    (holds : ∀ item ∈ items, good item) (index : Nat) :
    ∀ entry ∈ indexed index items, good entry.2 := by
  induction items generalizing index with
  | nil => nofun
  | cons item rest ih =>
      obtain ⟨here, later⟩ := List.forall_mem_cons.mp holds
      exact List.forall_mem_cons.mpr ⟨here, ih later (index + 1)⟩

namespace Value

/-- Plain values have the property, arrays have it with their elements, objects keep it under
writes, and the parts of what has it have it too. -/
structure Hereditary (good : Value → Prop) : Prop where
  null : good .null
  number : ∀ value, good (.number value)
  string : ∀ text, good (.string text)
  boolean : ∀ value, good (.boolean value)
  array : ∀ {items : List Value}, (∀ item ∈ items, good item) → good (.array items)
  item : ∀ {items : List Value}, good (.array items) → ∀ item ∈ items, good item
  object : good (.object [])
  insert : ∀ {entries : Table Value} {key : String} {value : Value}, good (.object entries) →
    good value → good (.object (Table.insert entries key value))
  entry : ∀ {entries : Table Value}, good (.object entries) → ∀ entry ∈ entries, good entry.2
  yielded : ∀ {identity : Identity} {yielded : Value}, good (.getter identity yielded) →
    good yielded

theorem hereditary_true : Hereditary fun _ => True := by
  constructor <;> intros <;> trivial

theorem hereditary_of_parts {good : Value → Prop} (null : good .null)
    (number : ∀ value, good (.number value)) (string : ∀ text, good (.string text))
    (boolean : ∀ value, good (.boolean value))
    (array : ∀ {items : List Value}, good (.array items) ↔ ∀ item ∈ items, good item)
    (object : ∀ {entries : Table Value}, good (.object entries) ↔ ∀ entry ∈ entries, good entry.2)
    (yielded : ∀ {identity : Identity} {yielded : Value}, good (.getter identity yielded) →
      good yielded) : Hereditary good where
  null := null
  number := number
  string := string
  boolean := boolean
  array := array.mpr
  item := array.mp
  object := object.mpr nofun
  insert := by
    intro entries key value before written
    apply object.mpr
    intro entry member
    rcases Table.mem_insert member with kept | rfl
    · exact object.mp before entry kept
    · exact written
  entry := object.mp
  yielded := yielded

theorem hereditary_getterFree : Hereditary GetterFree :=
  hereditary_of_parts nofun nofun nofun nofun getterFree_array getterFree_object
    fun free => absurd free (not_getterFree_getter _ _)

theorem hereditary_hostFree : Hereditary HostFree :=
  hereditary_of_parts nofun nofun nofun nofun hostFree_array hostFree_object hostFree_getter.mp

theorem hereditary_wellFormed : Hereditary WellFormed where
  null := nofun
  number := nofun
  string := nofun
  boolean := nofun
  array := wellFormed_array.mpr
  item := wellFormed_array.mp
  object := wellFormed_object.mpr ⟨List.nodup_nil, nofun⟩
  insert := by
    intro entries key value before written
    obtain ⟨distinct, formed⟩ := wellFormed_object.mp before
    refine wellFormed_object.mpr ⟨Table.nodup_keys_insert distinct key value, ?_⟩
    intro entry member
    rcases Table.mem_insert member with kept | rfl
    · exact formed entry kept
    · exact written
  entry := fun formed => (wellFormed_object.mp formed).2
  yielded := wellFormed_getter.mp

namespace Hereditary

variable {good : Value → Prop} (hereditary : Hereditary good) {value : Value}
  {bindings written : Table Value}

include hereditary

theorem ofNat (count : Nat) : good (.ofNat count) :=
  hereditary.number _

theorem force (holds : good value) : good value.force := by
  cases value with
  | getter identity yielded => exact hereditary.yielded holds
  | _ => exact holds

theorem insertAll {done : Table Value} (before : good (.object done))
    (holds : ∀ entry ∈ written, good entry.2) : good (.object (Table.insertAll done written)) := by
  induction written generalizing done with
  | nil => exact before
  | cons entry rest ih =>
      obtain ⟨here, later⟩ := List.forall_mem_cons.mp holds
      exact ih (hereditary.insert before here) later

theorem spread (holds : good value) (spreads : Grammar.spreadEntries? value = some written) :
    ∀ entry ∈ written, good entry.2 := by
  unfold Grammar.spreadEntries? at spreads
  split at spreads <;> cases spreads
  · exact hereditary.entry holds
  · exact Grammar.forall_mem_indexed (hereditary.item holds) 0
  · nofun

theorem step {segment : String} {inner : Value} (holds : good value)
    (taken : Path.step value segment = .into inner) : good inner := by
  unfold Path.step at taken
  split at taken
  · split at taken <;> cases taken
    rename_i found
    exact hereditary.entry holds _ (Table.mem_of_get? found)
  · split at taken
    · cases taken
    · split at taken <;> cases taken
      rename_i found
      obtain ⟨index, -, here⟩ := Option.bind_eq_some_iff.mp found
      exact hereditary.item holds _ (List.mem_of_getElem? here)
  · cases taken

/-- What a path reaches is a part of where it starts, a length or null. -/
theorem follow (holds : good value) (segments : List String) :
    good (Path.follow value segments) := by
  induction segments generalizing value with
  | nil => exact holds
  | cons segment rest ih =>
      unfold Path.follow
      cases taken : Path.step value segment with
      | into inner => exact ih (hereditary.step holds taken)
      | length count =>
          dsimp only
          split
          · exact hereditary.ofNat count
          · exact hereditary.null
      | missing => exact hereditary.null

theorem resolve (holds : ∀ entry ∈ bindings, good entry.2) (path : String) :
    good (Path.resolve bindings path) := by
  unfold Path.resolve
  split
  · exact hereditary.null
  · split
    · rename_i root found
      exact hereditary.follow (holds _ (Table.mem_of_get? found)) _
    · exact hereditary.null

theorem lookup (holds : ∀ entry ∈ bindings, good entry.2) {name : String}
    (found : Grammar.lookup bindings name = .ok value) : good value := by
  unfold Grammar.lookup at found
  split at found <;> cases found
  · rename_i bound
    exact hereditary.yielded (holds _ (Table.mem_of_get? bound))
  · rename_i bound
    exact holds _ (Table.mem_of_get? bound)

end Hereditary

end Value

end Reckon
