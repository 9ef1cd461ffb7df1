/-!
Values kept under text keys, in order.  A key keeps the place of its first write and the value of
its last, so reading a table back sees the last write and nothing else.
-/

namespace Reckon

universe u

/-- Entries in order, each a key with its value. -/
abbrev Table (α : Type u) := List (String × α)

namespace Table

variable {α : Type u}

def get? : Table α → String → Option α
  | [], _ => none
  | (key, value) :: rest, wanted => if key = wanted then some value else get? rest wanted

def contains (table : Table α) (key : String) : Bool :=
  (get? table key).isSome

/-- Write one entry: a new key goes to the end, a known one keeps its place. -/
def insert : Table α → String → α → Table α
  | [], key, value => [(key, value)]
  | (other, old) :: rest, key, value =>
      if other = key then (other, value) :: rest else (other, old) :: insert rest key value

/-- Write every entry of a list, first to last. -/
def insertAll (table : Table α) (entries : List (String × α)) : Table α :=
  entries.foldl (fun written entry => insert written entry.1 entry.2) table

/-- The table that writing the entries in order leaves. -/
def ofList (entries : List (String × α)) : Table α :=
  insertAll [] entries

def keys (table : Table α) : List String :=
  table.map Prod.fst

/-- The entries ordered by key, compared by code points. -/
def sorted (table : Table α) : Table α :=
  table.mergeSort (fun first second => !decide (second.1 < first.1))

@[simp]
theorem get?_nil (key : String) : get? ([] : Table α) key = none := rfl

@[simp]
theorem get?_insert_self (table : Table α) (key : String) (value : α) :
    get? (insert table key value) key = some value := by
  induction table with
  | nil => simp [insert, get?]
  | cons entry rest ih =>
      by_cases same : entry.1 = key
      · simp [insert, get?, same]
      · simp [insert, get?, same, ih]

theorem get?_insert_of_ne (table : Table α) {key other : String} (value : α)
    (distinct : key ≠ other) : get? (insert table key value) other = get? table other := by
  induction table with
  | nil => simp [insert, get?, distinct]
  | cons entry rest ih =>
      by_cases same : entry.1 = key
      · simp [insert, get?, same, distinct]
      · simp [insert, get?, same, ih]

theorem get?_insert (table : Table α) (key other : String) (value : α) :
    get? (insert table key value) other = if key = other then some value else get? table other := by
  by_cases same : key = other
  · subst same
    simp
  · simp [same, get?_insert_of_ne table value same]

theorem get?_append (first second : List (String × α)) (key : String) :
    get? (first ++ second) key = (get? first key).or (get? second key) := by
  induction first with
  | nil => simp
  | cons entry rest ih =>
      by_cases same : entry.1 = key
      · simp [get?, same]
      · simp [get?, same, ih]

/-- Of several entries with one key the last one is read back. -/
theorem get?_insertAll (table : Table α) (entries : List (String × α)) (key : String) :
    get? (insertAll table entries) key = (get? entries.reverse key).or (get? table key) := by
  induction entries generalizing table with
  | nil => simp [insertAll]
  | cons entry rest ih =>
      have unfolded : insertAll table (entry :: rest) =
          insertAll (insert table entry.1 entry.2) rest := rfl
      rw [unfolded, ih, get?_insert, List.reverse_cons, get?_append]
      by_cases same : entry.1 = key <;> simp [get?, same]

/-- A write leaves the keys alone, or adds its own at the end. -/
theorem keys_insert (table : Table α) (key : String) (value : α) :
    keys (insert table key value) =
      if key ∈ keys table then keys table else keys table ++ [key] := by
  induction table with
  | nil => simp [insert, keys]
  | cons entry rest ih =>
      by_cases same : entry.1 = key
      · simp [insert, keys, same]
      · have turned : key ≠ entry.1 := fun equal => same equal.symm
        have tail : List.map Prod.fst (insert rest key value) =
            if key ∈ keys rest then keys rest else keys rest ++ [key] := ih
        by_cases known : key ∈ keys rest
        · have listed : key ∈ List.map Prod.fst rest := known
          simp [insert, same, keys, tail, listed]
        · have unlisted : key ∉ List.map Prod.fst rest := known
          simp [insert, same, keys, tail, unlisted, turned]

/-- Writing keeps the keys distinct. -/
theorem nodup_keys_insert {table : Table α} (distinct : (keys table).Nodup) (key : String)
    (value : α) : (keys (insert table key value)).Nodup := by
  rw [keys_insert]
  by_cases known : key ∈ keys table
  · simp [known, distinct]
  · simp only [known, if_false]
    rw [List.nodup_append]
    exact ⟨distinct, by simp, by
      intro present presentMem added addedMem equal
      simp only [List.mem_singleton] at addedMem
      exact known (addedMem ▸ equal ▸ presentMem)⟩

end Table

end Reckon
