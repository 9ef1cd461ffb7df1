import Reckon.Proofs.Formula.Role
import Reckon.Proofs.Formula.Derivation
import Reckon.Proofs.Grammar.Lookahead
import Reckon.Proofs.Literal

/-!
Object literals.  Entry after entry is read and written into one table, so a key stands where it was
written first and has the value that was written last; an operand that may not be spread ends the
reading at once.
-/

namespace Reckon

open Parse Production

section

variable (frame : Frame)

/-- A production with as many productions inside each other as the tokens can need. -/
def Frame.production (depth : Nat) (production : Production) : Parse Value :=
  run frame (fuelFor frame.tokens.size) depth production

variable {frame}

theorem Production.cost_le_fuelFor (production : Production) (position : Nat) :
    production.cost frame position ≤ fuelFor frame.tokens.size := by
  cases production <;> simp only [Production.cost, fuelFor] <;> omega

/-- A production is one step in which those inside it stand for themselves. -/
theorem Frame.production_eq_step {production : Production} {position : Nat} (depth : Nat)
    (readable : production.ReadableAt frame position) :
    frame.production depth production position =
      step frame frame.production depth production position := by
  have enough := @Production.cost_le_fuelFor frame production position
  exact (run_enough readable enough (Nat.le_succ_of_le enough)).symm

end

theorem Table.insertAll_insertAll {α : Type} (table : Table α)
    (first second : List (String × α)) :
    insertAll (insertAll table first) second = insertAll table (first ++ second) :=
  List.foldl_append.symm

theorem Formula.role_brace {registry : Registry}
    (unclaimed : registry.unaryOperator? "\x7b" = none) : role registry "\x7b" = .object := by
  unfold role
  rw [unclaimed]
  rfl

/-- An entry of an object literal with the value of its expression or of what is spread. -/
inductive EntryValue
  | keyed (key : String) (value : Value)
  /-- The raw token is the operand with the mark. -/
  | spread (token : String) (value : Value)

/-- What an entry writes, in this order. -/
inductive EntryValue.Writes : EntryValue → List (String × Value) → Prop
  | keyed (key : String) (value : Value) : Writes (.keyed key value) [(key, value)]
  | object (token : String) (entries : Table Value) :
      Writes (.spread token (.object entries)) entries
  | array (token : String) (items : List Value) :
      Writes (.spread token (.array items)) (items.mapIdx fun index item => (toString index, item))
  | null (token : String) : Writes (.spread token .null) []

theorem Grammar.indexed_eq_mapIdx (index : Nat) (items : List Value) :
    indexed index items = items.mapIdx fun place item => (toString (index + place), item) := by
  induction items generalizing index with
  | nil => rfl
  | cons item rest ih =>
      have next : ∀ place, index + 1 + place = index + (place + 1) := by omega
      simp [indexed, ih, List.mapIdx_cons, next]

namespace EntryValue

variable {token : String} {value : Value} {entries : List (String × Value)}

theorem writes_spread_iff :
    Writes (.spread token value) entries ↔ Grammar.spreadEntries? value = some entries := by
  constructor
  · rintro (_ | _ | items)
    · rfl
    · simp [Grammar.spreadEntries?, Grammar.indexed_eq_mapIdx]
    · rfl
  · intro spread
    unfold Grammar.spreadEntries? at spread
    split at spread <;> cases spread
    · exact .object token _
    · rename_i items
      have array := Writes.array token items
      simpa [Grammar.indexed_eq_mapIdx] using array
    · exact .null token

end EntryValue

namespace Frame

/-- What is spread: an operand whose first token is taken for `token`, with the operators behind
it. -/
def spreadOperand (frame : Frame) (depth : Nat) (token : String) : Parse Value :=
  nested frame depth fun inner => do
    let left ← frame.production inner (.unary token)
    frame.production inner (.tail left 0)

/-- Between two positions there is an entry, and its expression or what it spreads has a value. -/
inductive EntryAt (frame : Frame) (depth : Nat) : EntryValue → (start stop : Nat) → Prop
  | keyed {key : String} {value : Value} {start stop : Nat}
      (here : frame.tokens[start]? = some key) (plain : Grammar.spreadOperand? key = none)
      (identifier : Grammar.isIdentifier key = true) (colon : frame.tokens[start + 1]? = some ":")
      (follows : Formula.Follows frame.tokens (start + 2))
      (read : frame.expression depth 0 (start + 2) = (.ok value, stop)) :
      EntryAt frame depth (.keyed key value) start stop
  | spread {mark token : String} {value : Value} {start stop : Nat}
      (here : frame.tokens[start]? = some mark)
      (marked : Grammar.spreadOperand? mark = some token)
      (read : frame.spreadOperand depth token start = (.ok value, stop)) :
      EntryAt frame depth (.spread mark value) start stop

/-- Between two positions there are entries with a comma behind each, and this is what they
write. -/
inductive EntriesAt (frame : Frame) (depth : Nat) :
    List (String × Value) → (start stop : Nat) → Prop
  | none {start : Nat} : EntriesAt frame depth [] start start
  | cons {entry : EntryValue} {entries others : List (String × Value)} {start middle stop : Nat}
      (first : EntryAt frame depth entry start middle) (writes : entry.Writes entries)
      (comma : frame.tokens[middle]? = some ",")
      (rest : EntriesAt frame depth others (middle + 1) stop) :
      EntriesAt frame depth (entries ++ others) start stop

variable {frame : Frame} {depth start middle stop : Nat} {entry : EntryValue}
  {entries written : List (String × Value)}

theorem EntryAt.inside (found : frame.EntryAt depth entry start stop) :
    start < frame.tokens.size := by
  cases found with
  | keyed here => exact lt_size here
  | spread here => exact lt_size here

theorem EntryAt.entry_of_writes (found : frame.EntryAt depth entry start stop)
    (writes : entry.Writes entries) (done : Table Value) {key : String}
    (here : frame.tokens[start]? = some key) :
    Production.entry frame frame.production depth done key start =
      (.ok (Table.insertAll done entries), stop) := by
  cases found with
  | keyed at' plain identifier colon follows read =>
      obtain rfl := Option.some.inj (at'.symm.trans here)
      obtain ⟨first, next, brace, comma⟩ := follows
      cases writes
      have read : frame.production depth (.expression 0) (start + 2) = _ := read
      simp [Production.entry, plain, identifier, colon, next, brace, comma, bind_of_ok read,
        Table.insertAll]
  | spread at' marked read =>
      obtain rfl := Option.some.inj (at'.symm.trans here)
      have spread := EntryValue.writes_spread_iff.mp writes
      simp only [Production.entry, marked]
      refine (bind_of_ok read).trans ?_
      rw [spread]
      rfl

theorem EntryAt.entry_of_refused {token : String} {value : Value}
    (found : frame.EntryAt depth (.spread token value) start stop)
    (refused : ∀ entries, ¬(EntryValue.spread token value).Writes entries) (done : Table Value) :
    Production.entry frame frame.production depth done token start =
      (.error (.raised (.invalidObject (some token))), stop) := by
  have unspread : Grammar.spreadEntries? value = none := by
    apply Option.eq_none_iff_forall_ne_some.mpr
    intro entries spread
    exact refused entries (EntryValue.writes_spread_iff.mpr spread)
  cases found with
  | spread here marked read =>
      simp only [Production.entry, marked]
      refine (bind_of_ok read).trans ?_
      rw [unspread]
      rfl

/-- Behind an entry the object ends, or another entry follows a comma. -/
def behindEntry (frame : Frame) (depth : Nat) (done : Table Value) : Parse Value := do
  match ← current frame with
  | some "\x7d" =>
      advance
      pure (.object done)
  | some "," =>
      advance
      frame.production depth (.entries done)
  | other => fail (.invalidObject other)

theorem production_entries (done : Table Value) {key : String}
    (here : frame.tokens[start]? = some key) :
    frame.production depth (.entries done) start =
      (Production.entry frame frame.production depth done key >>=
        frame.behindEntry depth) start := by
  have readable : (Production.entries done).ReadableAt frame start := trivial
  rw [production_eq_step depth readable, step, restOfObject, current_bind, here]
  rfl

/-- Entries with commas behind them are written one after the other before more is read. -/
theorem EntriesAt.production_entries (before : frame.EntriesAt depth written start stop)
    (done : Table Value) :
    frame.production depth (.entries done) start =
      frame.production depth (.entries (Table.insertAll done written)) stop := by
  induction before generalizing done with
  | none => rfl
  | @cons entry entries others start middle stop first writes comma rest ih =>
      have here := Array.getElem?_eq_getElem first.inside
      rw [Frame.production_entries done here, bind_of_ok (first.entry_of_writes writes done here),
        behindEntry, current_bind, comma]
      rw [← Table.insertAll_insertAll]
      exact ih _

/-- An object whose entries all write something holds what they write, settled. -/
theorem EntriesAt.object_of_last (before : frame.EntriesAt depth written start middle)
    (last : frame.EntryAt depth entry middle stop) (writes : entry.Writes entries)
    (closed : frame.tokens[stop]? = some "\x7d") :
    frame.production depth (.entries []) start =
      (.ok (.object (Table.settled (written ++ entries))), stop + 1) := by
  have here := Array.getElem?_eq_getElem last.inside
  rw [before.production_entries, Frame.production_entries _ here,
    bind_of_ok (last.entry_of_writes writes _ here), behindEntry, current_bind, closed,
    Table.insertAll_insertAll, ← Table.ofList_eq]
  rfl

/-- What may not be spread ends the object behind it, whatever follows. -/
theorem EntriesAt.refused {token : String} {value : Value}
    (before : frame.EntriesAt depth written start middle)
    (found : frame.EntryAt depth (.spread token value) middle stop)
    (refused : ∀ entries, ¬(EntryValue.spread token value).Writes entries) :
    frame.production depth (.entries []) start =
      (.error (.raised (.invalidObject (some token))), stop) := by
  have here : frame.tokens[middle]? = some token := by
    cases found with
    | spread here => exact here
  rw [before.production_entries, Frame.production_entries _ here]
  exact bind_of_error (found.entry_of_refused refused _)

theorem EntriesAt.unclosed {next : String} (before : frame.EntriesAt depth written start middle)
    (last : frame.EntryAt depth entry middle stop) (writes : entry.Writes entries)
    (behind : frame.tokens[stop]? = some next) (brace : next ≠ "\x7d") (comma : next ≠ ",") :
    frame.production depth (.entries []) start =
      (.error (.raised (.invalidObject (some next))), stop) := by
  have here := Array.getElem?_eq_getElem last.inside
  rw [before.production_entries, Frame.production_entries _ here,
    bind_of_ok (last.entry_of_writes writes _ here), behindEntry, current_bind, behind]
  simp [brace, comma]

/-- An object ends where an operand that is to be spread ends without a value. -/
theorem EntriesAt.fault_of_operand {mark token : String} {fault : Fault}
    (before : frame.EntriesAt depth written start middle)
    (here : frame.tokens[middle]? = some mark) (marked : Grammar.spreadOperand? mark = some token)
    (failed : frame.spreadOperand depth token middle = (.error fault, stop)) :
    frame.production depth (.entries []) start = (.error fault, stop) := by
  rw [before.production_entries, Frame.production_entries _ here]
  simp only [Production.entry, marked]
  exact bind_of_error (bind_of_error failed)

/-- The limit, if there is one, allows a depth. -/
def Allows (frame : Frame) (depth : Nat) : Prop :=
  ∀ limit, frame.limit = some limit → depth ≤ limit

theorem Allows.of_le {lower : Nat} (allows : frame.Allows depth) (le : lower ≤ depth) :
    frame.Allows lower :=
  fun limit limited => Nat.le_trans le (allows limit limited)

theorem Allows.nested_eq (allows : frame.Allows (depth + 1)) (inner : Nat → Parse Value) :
    nested frame depth inner = inner (depth + 1) := by
  unfold nested
  cases limited : frame.limit with
  | none => rfl
  | some limit => exact if_neg (Nat.not_lt.mpr (allows limit limited))

theorem Allows.of_nested {inner : Nat → Parse Value} {value : Value} {position reached : Nat}
    (read : nested frame depth inner position = (.ok value, reached)) :
    frame.Allows (depth + 1) := by
  intro limit limited
  by_contra exceeded
  unfold nested at read
  simp only [limited, if_pos (Nat.not_le.mp exceeded)] at read
  cases read

theorem EntryAt.allows (found : frame.EntryAt depth entry start stop) :
    frame.Allows (depth + 1) := by
  cases found with
  | keyed here plain identifier colon follows read =>
      have readable : (Production.expression 0).ReadableAt frame (start + 2) := trivial
      have read : frame.production depth (.expression 0) (start + 2) = _ := read
      rw [production_eq_step depth readable, step] at read
      exact .of_nested read
  | spread here marked read => exact .of_nested read

theorem operand_of_brace (opened : frame.tokens[start]? = some "\x7b")
    (unclaimed : frame.registry.unaryOperator? "\x7b" = none) :
    operand frame frame.production depth start =
      frame.production depth (.entries []) (start + 1) := by
  have kind := Formula.role_brace unclaimed
  have readable : (Production.unary "\x7b").ReadableAt frame start := lt_size opened
  rw [operand, current_bind, opened]
  change frame.production depth (.unary "\x7b") start = _
  rw [production_eq_step depth readable, step, unaryOrFactor_of_object _ _ kind]
  rfl

end Frame

end Reckon
