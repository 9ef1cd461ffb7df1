import Mathlib.Data.List.Nodup
import Reckon.Table

/-!
Tables in which no key stands twice: what is read under a key is the entry that has it, in whatever
order the entries are.
-/

namespace Reckon.Table

variable {α β : Type} {table other : Table α} {key : String} {value : α}

theorem get?_of_mem (distinct : (keys table).Nodup) (member : (key, value) ∈ table) :
    get? table key = some value := by
  induction table with
  | nil => cases member
  | cons entry rest ih =>
      obtain ⟨missing, distinct⟩ := List.nodup_cons.mp distinct
      rcases List.mem_cons.mp member with rfl | member
      · exact if_pos rfl
      · have different : entry.1 ≠ key := by
          rintro rfl
          exact missing (List.mem_map.mpr ⟨_, member, rfl⟩)
        exact (if_neg different).trans (ih distinct member)

theorem mem_of_get? (found : get? table key = some value) : (key, value) ∈ table := by
  induction table with
  | nil => cases found
  | cons entry rest ih =>
      obtain ⟨other, first⟩ := entry
      unfold get? at found
      split at found
      · rename_i same
        cases found
        exact same ▸ List.mem_cons_self
      · exact List.mem_cons_of_mem _ (ih found)

theorem get?_eq_none_of_not_mem (missing : key ∉ keys table) : get? table key = none := by
  induction table with
  | nil => rfl
  | cons entry rest ih =>
      obtain ⟨other, missing⟩ := not_or.mp (mt List.mem_cons.mpr missing)
      exact (if_neg (Ne.symm other)).trans (ih missing)

theorem mem_insert {entry : String × α} (member : entry ∈ insert table key value) :
    entry ∈ table ∨ entry = (key, value) := by
  induction table with
  | nil => exact .inr (List.mem_singleton.mp member)
  | cons first rest ih =>
      unfold insert at member
      split at member
      · rename_i same
        rcases List.mem_cons.mp member with rfl | member
        · exact .inr (Prod.ext same rfl)
        · exact .inl (List.mem_cons_of_mem _ member)
      · rcases List.mem_cons.mp member with rfl | member
        · exact .inl List.mem_cons_self
        · exact (ih member).imp_left (List.mem_cons_of_mem _)

theorem mem_insertAll {entries : List (String × α)} {entry : String × α}
    (member : entry ∈ insertAll table entries) : entry ∈ table ∨ entry ∈ entries := by
  induction entries generalizing table with
  | nil => exact .inl member
  | cons first rest ih =>
      have later : entry ∈ insertAll (insert table first.1 first.2) rest := member
      rcases ih later with kept | added
      · rcases mem_insert kept with kept | rfl
        · exact .inl kept
        · exact .inr List.mem_cons_self
      · exact .inr (List.mem_cons_of_mem _ added)

theorem mem_of_get?_insertAll {entries : List (String × α)}
    (found : get? (insertAll table entries) key = some value) :
    (key, value) ∈ entries ∨ get? table key = some value := by
  rw [get?_insertAll, Option.or_eq_some_iff] at found
  rcases found with found | ⟨-, found⟩
  · exact .inl (List.mem_reverse.mp (mem_of_get? found))
  · exact .inr found

theorem sorted_perm (table : Table α) : (sorted table).Perm table :=
  List.mergeSort_perm _ _

theorem nodup_keys_of_perm (perm : table.Perm other) (distinct : (keys other).Nodup) :
    (keys table).Nodup :=
  (perm.map Prod.fst).nodup_iff.mpr distinct

/-- The keys stand in order, none twice. -/
def Ascending (table : Table α) : Prop :=
  (keys table).Pairwise (· < ·)

theorem Ascending.nodup_keys (ascending : Ascending table) : (keys table).Nodup :=
  List.Pairwise.imp (fun less => by rintro rfl; exact String.lt_irrefl _ less) ascending

theorem ascending_sorted (distinct : (keys table).Nodup) : Ascending (sorted table) := by
  have ordered : (sorted table).Pairwise fun first second =>
      (!decide (second.1 < first.1)) = true := by
    apply List.pairwise_mergeSort
    · intro first second third
      simp only [Bool.not_eq_true', decide_eq_false_iff_not, String.not_lt]
      exact String.le_trans
    · intro first second
      simp only [Bool.or_eq_true, Bool.not_eq_true', decide_eq_false_iff_not, String.not_lt]
      exact String.le_total _ _
  have apart : (sorted table).Pairwise fun first second => first.1 ≠ second.1 :=
    List.pairwise_map.mp (nodup_keys_of_perm (sorted_perm table) distinct)
  apply List.pairwise_map.mpr
  apply (ordered.and apart).imp
  rintro first second ⟨le, ne⟩
  simp only [Bool.not_eq_true', decide_eq_false_iff_not] at le
  exact Std.lt_of_le_of_ne (String.not_lt.mp le) ne

def mapValues (change : α → β) (table : Table α) : Table β :=
  table.map fun entry => (entry.1, change entry.2)

@[simp]
theorem keys_mapValues (change : α → β) (table : Table α) :
    keys (mapValues change table) = keys table := by
  simp [keys, mapValues, Function.comp_def]

theorem mapValues_mapValues {γ : Type} (first : α → β) (second : β → γ) (table : Table α) :
    mapValues second (mapValues first table) =
      mapValues (fun value => second (first value)) table := by
  simp [mapValues, Function.comp_def]

theorem mem_mapValues {change : α → β} {entry : String × β} :
    entry ∈ mapValues change table ↔
      ∃ found, (entry.1, found) ∈ table ∧ change found = entry.2 := by
  unfold mapValues
  rw [List.mem_map]
  constructor
  · rintro ⟨found, member, rfl⟩
    exact ⟨found.2, member, rfl⟩
  · rintro ⟨found, member, same⟩
    exact ⟨_, member, Prod.ext rfl same⟩

theorem forall_mapValues {good : β → Prop} {change : α → β}
    (each : ∀ entry ∈ table, good (change entry.2)) :
    ∀ entry ∈ mapValues change table, good entry.2 := by
  intro entry member
  obtain ⟨found, original, changed⟩ := mem_mapValues.mp member
  rw [← changed]
  exact each _ original

end Reckon.Table
