import Mathlib.Data.List.Forall2
import Reckon.Proofs.Table
import Reckon.Proofs.Value.Json
import Reckon.Proofs.Value.Reach

/-!
The two documents of a value.  One keeps the order of entries and exists unless a host value is
reached, the other always exists; where both do they differ in nothing but the order of entries.
-/

namespace Reckon

/-- Documents that differ at most in the order of the entries of objects, at any depth. -/
inductive Json.Reordered : Json → Json → Prop
  | same (document : Json) : Reordered document document
  | array {lefts rights : List Json} (inner : List.Forall₂ Reordered lefts rights) :
      Reordered (.array lefts) (.array rights)
  | object {lefts moved rights : Table Json} (perm : moved.Perm rights)
      (keys : Table.keys lefts = Table.keys moved)
      (inner : List.Forall₂ Reordered (lefts.map Prod.snd) (moved.map Prod.snd)) :
      Reordered (.object lefts) (.object rights)

namespace Value

def isScalar : Value → Bool
  | .null | .number _ | .string _ | .boolean _ => true
  | .array _ | .object _ | .getter .. | .host .. => false

/-- A document in which each object lists the keys of the object that it was made from, in the order
in which they are there. -/
inductive Lists : Value → Json → Prop
  | scalar {value : Value} (plain : value.isScalar = true) : Lists value (toJson value)
  | array {items : List Value} {documents : List Json}
    (inner : List.Forall₂ Lists items documents) :
      Lists (.array items) (.array documents)
  | object {entries : Table Value} {written : Table Json}
      (keys : Table.keys written = Table.keys entries)
      (inner : List.Forall₂ Lists (entries.map Prod.snd) (written.map Prod.snd)) :
      Lists (.object entries) (.object written)
  | getter {identity : Identity} {yielded : Value} {document : Json}
      (inner : Lists yielded document) : Lists (.getter identity yielded) document

/-! ## Where there is a document -/

theorem isSome_serializeItems? {items : List Value} :
    (serializeItems? items).isSome ↔ ∀ item ∈ items, (serialize? item).isSome := by
  induction items with
  | nil => simp [serializeItems?]
  | cons item rest ih =>
      rw [List.forall_mem_cons, ← ih, serializeItems?]
      cases serialize? item <;> cases serializeItems? rest <;> simp

theorem isSome_serializeEntries? {entries : Table Value} :
    (serializeEntries? entries).isSome ↔ ∀ entry ∈ entries, (serialize? entry.2).isSome := by
  induction entries with
  | nil => simp [serializeEntries?]
  | cons entry rest ih =>
      rw [List.forall_mem_cons, ← ih, serializeEntries?]
      cases serialize? entry.2 <;> cases serializeEntries? rest <;> simp

theorem isSome_serialize? (value : Value) : (serialize? value).isSome ↔ HostFree value := by
  induction value using Value.induction with
  | null | number | string | boolean =>
      refine iff_of_true rfl ?_
      rintro identity text ⟨⟩
  | array items inner =>
      rw [hostFree_array, serialize?, Option.isSome_map, isSome_serializeItems?]
      exact forall₂_congr inner
  | object entries inner =>
      rw [hostFree_object, serialize?, Option.isSome_map, isSome_serializeEntries?]
      exact forall₂_congr inner
  | getter identity yielded inner => exact inner.trans hostFree_getter.symm
  | host identity text => exact iff_of_false nofun (not_hostFree_host identity text)

/-! ## What it is -/

theorem forall₂_of_serializeItems? {items : List Value} {documents : List Json}
    (written : serializeItems? items = some documents) :
    List.Forall₂ (fun item document => serialize? item = some document) items documents := by
  induction items generalizing documents with
  | nil =>
      cases written
      exact .nil
  | cons item rest ih =>
      unfold serializeItems? at written
      split at written
      · rename_i first others here more
        cases written
        exact .cons here (ih more)
      · cases written

theorem forall₂_of_serializeEntries? {entries : Table Value} {documents : Table Json}
    (written : serializeEntries? entries = some documents) :
    Table.keys documents = Table.keys entries ∧
      List.Forall₂ (fun item document => serialize? item = some document)
        (entries.map Prod.snd) (documents.map Prod.snd) := by
  induction entries generalizing documents with
  | nil =>
      cases written
      exact ⟨rfl, .nil⟩
  | cons entry rest ih =>
      unfold serializeEntries? at written
      split at written
      · rename_i first others here more
        cases written
        obtain ⟨keys, inner⟩ := ih more
        exact ⟨congrArg (entry.1 :: ·) keys, .cons here inner⟩
      · cases written

/-- The document with its entries in order next to the one with sorted keys. -/
structure Agrees (value : Value) (document : Json) : Prop where
  reordered : document.Reordered (toJson value)
  lists : Lists value document

theorem forall₂_agrees {items : List Value} {documents : List Json}
    (inner : ∀ item ∈ items, ∀ {document}, serialize? item = some document → Agrees item document)
    (written : List.Forall₂ (fun item document => serialize? item = some document)
      items documents) :
    List.Forall₂ Agrees items documents := by
  have both := (List.forall₂_and_left _ _).mpr ⟨inner, written⟩
  exact both.imp fun _ _ part => part.1 part.2

theorem reordered_of_agrees {items : List Value} {documents : List Json}
    (each : List.Forall₂ Agrees items documents) :
    List.Forall₂ Json.Reordered documents (items.map toJson) := by
  rw [List.forall₂_map_right_iff]
  exact each.flip.imp fun _ _ agrees => agrees.reordered

theorem agrees_of_serialize? {value : Value} {document : Json}
    (written : serialize? value = some document) : Agrees value document := by
  induction value using Value.induction generalizing document with
  | null | number | string | boolean =>
      cases written
      exact ⟨.same _, .scalar rfl⟩
  | array items inner =>
      obtain ⟨documents, all, rfl⟩ := Option.map_eq_some_iff.mp written
      have each := forall₂_agrees inner (forall₂_of_serializeItems? all)
      refine ⟨?_, .array (each.imp fun _ _ agrees => agrees.lists)⟩
      rw [toJson, itemsToJson_eq]
      exact .array (reordered_of_agrees each)
  | object entries inner =>
      obtain ⟨documents, all, rfl⟩ := Option.map_eq_some_iff.mp written
      obtain ⟨keys, parts⟩ := forall₂_of_serializeEntries? all
      have inner : ∀ item ∈ entries.map Prod.snd, ∀ {document},
          serialize? item = some document → Agrees item document := List.forall_mem_map.mpr inner
      have each := forall₂_agrees inner parts
      refine ⟨?_, .object keys (each.imp fun _ _ agrees => agrees.lists)⟩
      rw [toJson, entriesToJson_eq]
      refine .object (Table.sorted_perm _).symm ?_ ?_
      · rw [keys, Table.keys_mapValues]
      · rw [Table.mapValues, List.map_map]
        have values : List.map (Prod.snd ∘ fun entry => (entry.1, toJson entry.2)) entries =
            (entries.map Prod.snd).map toJson := by simp [Function.comp_def]
        rw [values]
        exact reordered_of_agrees each
  | getter identity yielded inner =>
      obtain ⟨reordered, lists⟩ := inner written
      exact ⟨reordered, .getter lists⟩
  | host identity text => cases written

/-- A value has a document in which entries keep their order exactly if no host value is a part of
it, and this document is the one with sorted keys but for the order of entries. -/
theorem serialize?_agrees (value : Value) :
    ((∃ document, serialize? value = some document) ↔ HostFree value) ∧
      ∀ document, serialize? value = some document →
        document.Reordered (toJson value) ∧ Lists value document := by
  refine ⟨?_, fun document written => ?_⟩
  · rw [← Option.isSome_iff_exists]
    exact isSome_serialize? value
  · obtain ⟨reordered, lists⟩ := agrees_of_serialize? written
    exact ⟨reordered, lists⟩

/-- The keys of the object that a getter yields stay as they are; with a host value behind another
getter there is no document. -/
theorem serialize?_agrees_getter :
    let value : Value := .object [("b", .array [.number (-0), .getter (.supplied 0)
      (.object [("d", .null), ("c", .boolean true)])]), ("a", .string "x")]
    let document : Json := .object [("b", .array [.integer 0,
      .object [("d", .null), ("c", .boolean true)]]), ("a", .string "x")]
    let held : Value := .array [.getter (.supplied 0) (.host (.supplied 1) "h")]
    serialize? value = some document ∧ HostFree value ∧ document.Reordered (toJson value) ∧
      Lists value document ∧ ¬HostFree held ∧ serialize? held = none := by
  intro value document held
  have zero : numberToJson (-0) = .integer 0 := by
    have read : (Binary64.toInt? (-0)).filter (·.natAbs < integerLimit) = some 0 := by
      decide +kernel
    rw [numberToJson, read]
  have written : serialize? value = some document := by
    simp only [value, document, serialize?, serializeItems?, serializeEntries?, zero]
    rfl
  obtain ⟨exists_iff, agrees⟩ := serialize?_agrees value
  have refused : serialize? held = none := rfl
  refine ⟨written, exists_iff.mp ⟨document, written⟩, (agrees document written).1,
    (agrees document written).2, ?_, refused⟩
  intro free
  obtain ⟨found, written⟩ := (serialize?_agrees held).1.mpr free
  rw [refused] at written
  cases written

end Value

end Reckon
