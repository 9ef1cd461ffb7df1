import Reckon.Json.Reader
import Reckon.Proofs.Binary64
import Reckon.Proofs.Table

/-!
What documents can be: integers fit a machine word, other numbers are finite, and the keys of an
object stand in order, none twice.  Every text that can be read gives such a document.
-/

namespace Reckon.Json

/-- A document as it is kept, whatever it was made from. -/
inductive WellFormed : Json → Prop
  | null : WellFormed .null
  | boolean (value : Bool) : WellFormed (.boolean value)
  | string (text : String) : WellFormed (.string text)
  | integer {value : Int} (least : Binary64.minWord ≤ value) (most : value ≤ maxNatural) :
      WellFormed (.integer value)
  | real {value : Float} (finite : Binary64.IsFinite value) : WellFormed (.real value)
  | array {items : List Json} (inner : ∀ item ∈ items, WellFormed item) : WellFormed (.array items)
  | object {entries : Table Json} (ascending : Table.Ascending entries)
      (inner : ∀ entry ∈ entries, WellFormed entry.2) : WellFormed (.object entries)

theorem ofDouble_of_isFinite {number : Float} (finite : Binary64.IsFinite number) :
    ofDouble number = .real number := by
  obtain ⟨negative, mantissa, exponent, read⟩ := finite
  simp only [ofDouble, read]

theorem wellFormed_ofDouble (number : Float) : (ofDouble number).WellFormed := by
  by_cases finite : Binary64.IsFinite number
  · rw [ofDouble_of_isFinite finite]
    exact .real finite
  · unfold ofDouble
    split
    · rename_i read
      exact absurd ⟨_, _, _, read⟩ finite
    · exact .null

/-! ## Readers -/

structure Yields {α : Type} (good : α → Prop) (reading : Reading α) : Prop where
  result : ∀ found ∈ reading, good found.1

namespace Yields

variable {α β : Type} {good : α → Prop} {reading : Reading α}

theorem none : Yields good none :=
  ⟨nofun⟩

theorem some {result : α} {rest : List Char} (holds : good result) :
    Yields good (some (result, rest)) := by
  constructor
  rintro _ ⟨⟩
  exact holds

theorem bind {other : β → Prop} {next : α × List Char → Reading β} (first : Yields good reading)
    (continues : ∀ result rest, good result → Yields other (next (result, rest))) :
    Yields other (reading.bind next) := by
  constructor
  intro final found
  obtain ⟨⟨result, rest⟩, read, found⟩ := Option.bind_eq_some_iff.mp found
  exact (continues result rest (first.result _ read)).result final found

theorem bind_any {first : Reading β} {next : β × List Char → Reading α}
    (continues : ∀ result rest, Yields good (next (result, rest))) :
    Yields good (first.bind next) := by
  have anything : Yields (fun _ => True) first := ⟨fun _ _ => trivial⟩
  exact anything.bind fun result rest _ => continues result rest

theorem map {source : Option β} {change : β → α × List Char}
    (continues : ∀ found, good (change found).1) : Yields good (source.map change) := by
  constructor
  intro final found
  obtain ⟨result, -, rfl⟩ := Option.map_eq_some_iff.mp found
  exact continues result

end Yields

/-! ## Numbers -/

theorem takeSignificand_le {start : Nat} (small : start ≤ maxNatural) (text : List Char) :
    (takeSignificand start text).1 ≤ maxNatural := by
  induction text generalizing start with
  | nil => exact small
  | cons c rest ih =>
      unfold takeSignificand
      dsimp only
      split
      · split
        · rename_i fits
          exact ih fits
        · exact small
      · exact small

theorem yields_real? (negative : Bool) (significand : Nat) (exponent : Int) (rest : List Char) :
    Yields WellFormed (real? negative significand exponent rest) := by
  unfold real?
  exact .map fun _ => wellFormed_ofDouble _

theorem yields_finishReal (negative : Bool) (significand : Nat) (exponent : Int)
    (text : List Char) : Yields WellFormed (finishReal negative significand exponent text) := by
  unfold finishReal
  split
  · split
    · exact .bind_any fun _ _ => yields_real? ..
    · exact yields_real? ..
  · exact yields_real? ..

theorem yields_integer? (negative : Bool) {whole : Nat} (small : whole ≤ maxNatural)
    (rest : List Char) : Yields WellFormed (readMagnitude.integer? negative whole rest) := by
  unfold readMagnitude.integer?
  split
  · split
    · exact .some (wellFormed_ofDouble _)
    · rename_i fits
      simp only [Bool.or_eq_true, decide_eq_true_iff, not_or, Nat.not_lt] at fits
      apply Yields.some
      apply WellFormed.integer
      · have least : Binary64.minWord = -(Binary64.minWord.natAbs : Int) := by decide
        omega
      · omega
  · exact .some (.integer (Int.le_trans (by decide) (Int.natCast_nonneg whole))
      (Int.ofNat_le.mpr small))

theorem yields_readMagnitude (negative : Bool) (text : List Char) :
    Yields WellFormed (readMagnitude negative text) := by
  have small := takeSignificand_le (Nat.zero_le maxNatural) text
  unfold readMagnitude
  split
  · exact .none
  · split
    · exact .none
    split
    · exact .none
    dsimp only
    split
    · split
      · exact .none
      split <;> exact yields_finishReal ..
    · split
      · exact yields_finishReal ..
      · exact yields_integer? _ small _
    · split
      · exact yields_integer? _ small _
      · exact yields_finishReal ..

theorem yields_readNumber (text : List Char) : Yields WellFormed (readNumber text) := by
  unfold readNumber
  split <;> exact yields_readMagnitude ..

/-! ## Documents -/

structure WellFormedEntries (entries : Table Json) : Prop where
  distinct : (Table.keys entries).Nodup
  inner : ∀ entry ∈ entries, WellFormed entry.2

namespace WellFormedEntries

variable {entries : Table Json} (formed : WellFormedEntries entries)

theorem nil : WellFormedEntries [] :=
  ⟨List.nodup_nil, nofun⟩

include formed

theorem insert (key : String) {item : Json} (item_formed : item.WellFormed) :
    WellFormedEntries (Table.insert entries key item) where
  distinct := Table.nodup_keys_insert formed.distinct key item
  inner entry member := by
    rcases Table.mem_insert member with old | rfl
    · exact formed.inner entry old
    · exact item_formed

theorem sorted : (Json.object (Table.sorted entries)).WellFormed :=
  .object (Table.ascending_sorted formed.distinct) fun entry member =>
    formed.inner entry ((Table.sorted_perm entries).mem_iff.mp member)

end WellFormedEntries

theorem yields_read (fuel : Nat) :
    (∀ depth text, Yields WellFormed (readValue fuel depth text)) ∧
    (∀ depth done text, (∀ item ∈ done, WellFormed item) →
      Yields WellFormed (readItems fuel depth done text)) ∧
    ∀ depth done text, WellFormedEntries done →
      Yields WellFormed (readEntries fuel depth done text) := by
  induction fuel with
  | zero => exact ⟨fun _ _ => .none, fun _ _ _ _ => .none, fun _ _ _ _ => .none⟩
  | succ fuel ih =>
      obtain ⟨value, items, entries⟩ := ih
      refine ⟨fun depth text => ?_, fun depth done text formed => ?_,
        fun depth done text formed => ?_⟩
      · unfold readValue
        split
        · exact .some .null
        · exact .some (.boolean true)
        · exact .some (.boolean false)
        · exact .map fun found => .string found.1
        · split
          · exact .none
          split
          · exact .some (.array nofun)
          · exact items _ _ _ nofun
        · split
          · exact .none
          split
          · exact .some (.object .nil nofun)
          · exact entries _ _ _ .nil
        · exact yields_readNumber _
      · unfold readItems
        apply Yields.bind (value depth text)
        intro item rest item_formed
        have all : ∀ other ∈ item :: done, other.WellFormed :=
          List.forall_mem_cons.mpr ⟨item_formed, formed⟩
        dsimp only
        split
        · exact items _ _ _ all
        · exact .some (.array fun other member => all other (List.mem_reverse.mp member))
        · exact .none
      · unfold readEntries
        split
        · apply Yields.bind_any
          intro key rest
          dsimp only
          split
          · apply Yields.bind (value depth _)
            intro item rest item_formed
            have written := formed.insert key item_formed
            dsimp only
            split
            · exact entries _ _ _ written
            · exact .some written.sorted
            · exact .none
          · exact .none
        · exact .none

theorem wellFormed_of_read? {text : String} {document : Json} (read : read? text = some document) :
    document.WellFormed := by
  unfold read? at read
  dsimp only at read
  split at read
  · rename_i found
    split at read
    · cases read
      exact ((yields_read _).1 _ _).result _ found
    · cases read
  · cases read

end Reckon.Json
