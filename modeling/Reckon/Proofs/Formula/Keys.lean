import Reckon.Proofs.Formula.Derivation
import Reckon.Proofs.Formula.Agreement
import Reckon.Proofs.Outcome
import Reckon.Proofs.Table

/-!
The keys of object literals: which tokens are written as keys, and what an object has under a key
that no later entry writes.
-/

namespace Reckon

namespace Formula

/-- An entry writes a key: its own, or one of what it spreads. -/
inductive Entry.Writes (setting : Setting) (key : String) : Entry → Prop
  | keyed (expression : Formula) : Writes setting key (.keyed key expression)
  | spread (token : String) {operand : Formula} {value : Value} {entries : List (String × Value)}
      (valued : operand.evaluate setting = .ok value)
      (spread : Grammar.spreadEntries? value = some entries) (member : key ∈ Table.keys entries) :
      Writes setting key (.spread token operand)

section

variable {setting : Setting} {key : String} {done written : Table Value}

theorem writes_keyed_iff {other : String} {expression : Formula} :
    (Entry.keyed other expression).Writes setting key ↔ other = key := by
  constructor
  · rintro ⟨⟩
    rfl
  · rintro rfl
    exact .keyed expression

theorem get?_of_not_writes {entry : Entry} (kept : ¬entry.Writes setting key)
    (evaluated : evaluateEntry setting done entry = .ok written) :
    Table.get? written key = Table.get? done key := by
  cases entry with
  | keyed other expression =>
      obtain ⟨value, -, equal⟩ := Outcome.bind_eq_ok_iff.mp evaluated
      cases equal
      exact Table.get?_insert_of_ne done value (mt writes_keyed_iff.mpr kept)
  | spread token operand =>
      obtain ⟨value, valued, spread⟩ := Outcome.bind_eq_ok_iff.mp evaluated
      unfold spreadInto at spread
      split at spread <;> cases spread
      rename_i entries found
      have missing : key ∉ Table.keys entries.reverse := by
        rw [Table.keys, List.map_reverse, List.mem_reverse]
        exact fun member => kept (.spread token valued found member)
      rw [Table.get?_insertAll, Table.get?_eq_none_of_not_mem missing, Option.none_or]

theorem get?_of_none_writes {entries : List Entry}
    (kept : ∀ entry ∈ entries, ¬entry.Writes setting key)
    (evaluated : evaluateEntries setting done entries = .ok written) :
    Table.get? written key = Table.get? done key := by
  induction entries generalizing done with
  | nil =>
      cases evaluated
      rfl
  | cons entry rest ih =>
      obtain ⟨here, others⟩ := List.forall_mem_cons.mp kept
      obtain ⟨table, first, more⟩ := Outcome.bind_eq_ok_iff.mp evaluated
      rw [ih others more, get?_of_not_writes here first]

theorem evaluateEntries_append (first second : List Entry) :
    evaluateEntries setting done (first ++ second) = (do
      let table ← evaluateEntries setting done first
      evaluateEntries setting table second) := by
  induction first generalizing done with
  | nil => simp [evaluateEntries]
  | cons entry rest ih => simp [evaluateEntries, ih]

/-- An object has under a key the value of the entry that writes it last. -/
theorem get?_of_last_writes {before after : List Entry} {expression : Formula}
    (last : ∀ entry ∈ after, ¬entry.Writes setting key)
    (evaluated : evaluateEntries setting done (before ++ .keyed key expression :: after) =
      .ok written) :
    ∃ value, expression.evaluate setting = .ok value ∧ Table.get? written key = some value := by
  rw [evaluateEntries_append] at evaluated
  obtain ⟨table, -, rest⟩ := Outcome.bind_eq_ok_iff.mp evaluated
  obtain ⟨more, entry, rest⟩ := Outcome.bind_eq_ok_iff.mp rest
  obtain ⟨value, valued, equal⟩ := Outcome.bind_eq_ok_iff.mp entry
  cases equal
  refine ⟨value, valued, ?_⟩
  rw [get?_of_none_writes last rest, Table.get?_insert_self]

end

/-- Whether the own keys of an object all pass a test; other trees have none. -/
def HasKeys (test : String → Prop) : Formula → Prop
  | .object entries => ∀ key expression, .keyed key expression ∈ entries → test key
  | _ => True

/-- The same for a phrase, whatever holds of what was read before. -/
def Phrase.HasKeys (test : String → Prop) : Phrase → Prop
  | .expression _ whole | .unary _ whole | .elements _ whole | .arguments _ _ whole =>
      whole.HasKeys test
  | .tail left _ whole => left.HasKeys test → whole.HasKeys test
  | .entries done whole => (object done).HasKeys test → whole.HasKeys test
  | .entry item => (object [item]).HasKeys test

theorem HasKeys.concat {test : String → Prop} {done : List Entry} {entry : Entry}
    (first : (object done).HasKeys test) (last : (object [entry]).HasKeys test) :
    (object (done ++ [entry])).HasKeys test := by
  intro key expression member
  rcases List.mem_append.mp member with member | member
  · exact first key expression member
  · exact last key expression member

/-- The keys of object literals are tokens, identifiers by their first character. -/
theorem Derives.hasKeys {registry : Registry} {tokens : Array String} {phrase : Phrase}
    {start stop : Nat} (derived : Derives registry tokens phrase start stop) :
    phrase.HasKeys fun key => key ∈ tokens ∧ Grammar.isIdentifier key = true := by
  induction derived with
  | expression here first rest firstKeys restKeys => exact restKeys firstKeys
  | loose => exact id
  | tight here registered tight operand rest operandKeys restKeys => exact fun _ => restKeys trivial
  | unaryOperator | literal | path | name | lastElement | lastArgument => trivial
  | parentheses kind inner closed keys => exact keys
  | array kind rest keys => exact keys
  | object kind rest keys => exact keys nofun
  | call kind opened rest keys => exact keys
  | element more first separated rest firstKeys restKeys => exact restKeys
  | argument more first separated rest firstKeys restKeys => exact restKeys
  | lastEntry first closed keys => exact fun done => done.concat keys
  | moreEntries first separated rest firstKeys restKeys =>
      exact fun done => restKeys (done.concat firstKeys)
  | keyed here plain identifier colon follows inner =>
      intro key expression member
      cases List.mem_singleton.mp member
      exact ⟨Array.mem_of_getElem? here, identifier⟩
  | spread =>
      intro key expression member
      cases List.mem_singleton.mp member

end Formula

end Reckon
