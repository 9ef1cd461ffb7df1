import Reckon.Options
import Reckon.Standard
import Reckon.Proofs.Pool
import Reckon.Proofs.Table

/-!
Configuration.  An engine has five tables: default bindings, functions, binary operators, unary
operators and precedences.  Whatever changes it has been through, a lookup gives what the last of
them wrote that wrote this name in this table, and what was there at first if none did.
-/

namespace Reckon

theorem Table.get?_reverse {α : Type} {table : Table α} (distinct : (keys table).Nodup)
    (key : String) : get? table.reverse key = get? table key := by
  have turned : (keys table.reverse).Nodup := by
    rw [keys, List.map_reverse, List.nodup_reverse]
    exact distinct
  ext value
  constructor
  · intro found
    exact get?_of_mem distinct (List.mem_reverse.mp (mem_of_get? found))
  · intro found
    exact get?_of_mem turned (List.mem_reverse.mpr (mem_of_get? found))

namespace Engine

inductive Slot
  | binding (name : String)
  | function (name : String)
  | operator (symbol : String)
  | unaryOperator (symbol : String)
  | precedence (symbol : String)
  deriving DecidableEq, Repr

namespace Slot

/-- What a lookup gives; a symbol without precedence has precedence zero. -/
def Answer : Slot → Type
  | .binding _ => Option Value
  | .function _ => Option Callable
  | .operator _ => Option BinaryOperator
  | .unaryOperator _ => Option UnaryOperator
  | .precedence _ => Precedence

def read (engine : Engine) : (slot : Slot) → slot.Answer
  | .binding name => Table.get? engine.defaults name
  | .function name => engine.registry.function? name
  | .operator symbol => engine.registry.operator? symbol
  | .unaryOperator symbol => engine.registry.unaryOperator? symbol
  | .precedence symbol => engine.registry.precedence symbol

end Slot

namespace Change

/-! Which entries a change writes into which table. -/

def bindingWrites : Change → Table Value
  | .bindings added => added
  | _ => []

def functionWrites : Change → Table Callable
  | .functions added => added
  | .function name added => [(name, added)]
  | _ => []

def operatorWrites : Change → Table BinaryOperator
  | .operators added => added
  | .operator symbol _ added => [(symbol, added)]
  | _ => []

def unaryOperatorWrites : Change → Table UnaryOperator
  | .unaryOperators added => added
  | .unaryOperator symbol added => [(symbol, added)]
  | _ => []

def precedenceWrites : Change → Table Precedence
  | .precedences added => added
  | .operator symbol precedence _ => [(symbol, precedence)]
  | _ => []

/-- What lookups give from now on at a slot that a change writes.  Of several entries under one name
the last one counts. -/
def written? (change : Change) : (slot : Slot) → Option slot.Answer
  | .binding name => (Table.get? change.bindingWrites.reverse name).map some
  | .function name => (Table.get? change.functionWrites.reverse name).map some
  | .operator symbol => (Table.get? change.operatorWrites.reverse symbol).map some
  | .unaryOperator symbol => (Table.get? change.unaryOperatorWrites.reverse symbol).map some
  | .precedence symbol => Table.get? change.precedenceWrites.reverse symbol

theorem getD_map_some {α : Type} (written initial : Option α) :
    (written.map some).getD initial = written.or initial := by
  cases written <;> rfl

section

variable (change : Change) (engine : Engine)

theorem defaults_apply : (change.apply engine).defaults =
    Table.insertAll engine.defaults change.bindingWrites := by
  cases change <;> rfl

theorem functions_apply : (change.apply engine).registry.functions =
    Table.insertAll engine.registry.functions change.functionWrites := by
  cases change <;> rfl

theorem operators_apply : (change.apply engine).registry.operators =
    Table.insertAll engine.registry.operators change.operatorWrites := by
  cases change <;> rfl

theorem unaryOperators_apply : (change.apply engine).registry.unaryOperators =
    Table.insertAll engine.registry.unaryOperators change.unaryOperatorWrites := by
  cases change <;> rfl

theorem precedences_apply : (change.apply engine).registry.precedences =
    Table.insertAll engine.registry.precedences change.precedenceWrites := by
  cases change <;> rfl

theorem rest_apply : (change.apply engine).lexicon = engine.lexicon ∧
    (change.apply engine).limit = engine.limit := by
  cases change <;> exact ⟨rfl, rfl⟩

/-- One change: what it writes is read back, and every other slot keeps what it had. -/
theorem read_apply (slot : Slot) :
    slot.read (change.apply engine) = (change.written? slot).getD (slot.read engine) := by
  cases slot with
  | binding name =>
      rw [Slot.read, defaults_apply, Table.get?_insertAll]
      exact (getD_map_some _ _).symm
  | function name =>
      rw [Slot.read, Registry.function?, functions_apply, Table.get?_insertAll]
      exact (getD_map_some _ _).symm
  | operator symbol =>
      rw [Slot.read, Registry.operator?, operators_apply, Table.get?_insertAll]
      exact (getD_map_some _ _).symm
  | unaryOperator symbol =>
      rw [Slot.read, Registry.unaryOperator?, unaryOperators_apply, Table.get?_insertAll]
      exact (getD_map_some _ _).symm
  | precedence symbol =>
      rw [Slot.read, Registry.precedence, precedences_apply, Table.get?_insertAll]
      change _ = (Table.get? change.precedenceWrites.reverse symbol).getD
        (engine.registry.precedence symbol)
      cases Table.get? change.precedenceWrites.reverse symbol <;> rfl

end

end Change

/-- The engine after changes, the first one first. -/
def changed (engine : Engine) (changes : List Change) : Engine :=
  changes.foldl (fun engine change => change.apply engine) engine

/-- What the last change wrote that wrote at a slot, if one did. -/
def lastWrite? (changes : List Change) (slot : Slot) : Option slot.Answer :=
  changes.reverse.findSome? fun change => change.written? slot

theorem lastWrite?_append (first second : List Change) (slot : Slot) :
    lastWrite? (first ++ second) slot = (lastWrite? second slot).or (lastWrite? first slot) := by
  unfold lastWrite?
  rw [List.reverse_append, List.findSome?_append]

theorem lastWrite?_eq_none_iff {changes : List Change} {slot : Slot} :
    lastWrite? changes slot = none ↔ ∀ change ∈ changes, change.written? slot = none := by
  unfold lastWrite?
  simp

theorem read_changed (engine : Engine) (changes : List Change) (slot : Slot) :
    slot.read (engine.changed changes) = (lastWrite? changes slot).getD (slot.read engine) := by
  induction changes generalizing engine with
  | nil => rfl
  | cons change rest ih =>
      have later : slot.read (engine.changed (change :: rest)) =
          (lastWrite? rest slot).getD (slot.read (change.apply engine)) := ih _
      have last : lastWrite? (change :: rest) slot =
          (lastWrite? rest slot).or (change.written? slot) := by
        rw [← List.singleton_append, lastWrite?_append]
        simp [lastWrite?]
      rw [later, last, change.read_apply]
      cases lastWrite? rest slot <;> rfl

theorem rest_changed (engine : Engine) (changes : List Change) :
    (engine.changed changes).lexicon = engine.lexicon ∧
      (engine.changed changes).limit = engine.limit := by
  induction changes generalizing engine with
  | nil => exact ⟨rfl, rfl⟩
  | cons change rest ih =>
      obtain ⟨lexicon, limit⟩ := ih (change.apply engine)
      obtain ⟨same, bound⟩ := change.rest_apply engine
      exact ⟨lexicon.trans same, limit.trans bound⟩

/-- Where one of two runs of changes writes, the other one does not. -/
def Apart (first second : List Change) : Prop :=
  ∀ slot, (∀ change ∈ first, change.written? slot = none) ∨
    ∀ change ∈ second, change.written? slot = none

theorem lastWrite?_swap {first second : List Change} (apart : Apart first second)
    (slot : Slot) : lastWrite? (first ++ second) slot = lastWrite? (second ++ first) slot := by
  rw [lastWrite?_append, lastWrite?_append]
  rcases apart slot with unwritten | unwritten
  · rw [lastWrite?_eq_none_iff.mpr unwritten, Option.or_none, Option.none_or]
  · rw [lastWrite?_eq_none_iff.mpr unwritten, Option.or_none, Option.none_or]

/-- The changes that do to a standard engine what building it with options does. -/
def optionChanges (options : Options) : List Change :=
  [.bindings options.bindings, .precedences options.precedences,
    .unaryOperators options.unaryOperators]

theorem read_build {clock : Calendar.Moment} {options : Options} {engine : Engine}
    (distinct : (Table.keys options.bindings).Nodup)
    (built : build (Standard.registry clock) options = .ok engine) (slot : Slot) :
    slot.read engine = slot.read ((standard clock).changed (optionChanges options)) := by
  unfold build at built
  split at built <;> cases built
  cases slot with
  | binding name =>
      have merged : Table.get? (Table.insertAll [] options.bindings) name =
          Table.get? options.bindings name := by
        rw [Table.get?_insertAll, Table.get?_reverse distinct]
        exact Option.or_none
      exact merged.symm
  | _ => rfl

/-- The last write wins, by name and table, and nothing else does anything.  An operator is
registered together with its precedence and replaced without it; changes that write at different
slots commute, wherever they stand among others; and options do to a standard engine what the
corresponding changes do. -/
theorem last_write_wins :
    (∀ (engine : Engine) (changes : List Change), (∀ slot : Slot,
        slot.read (engine.changed changes) =
          (lastWrite? changes slot).getD (slot.read engine)) ∧
      (engine.changed changes).lexicon = engine.lexicon ∧
        (engine.changed changes).limit = engine.limit) ∧
    (∀ symbol precedence operator operators,
      (Change.operator symbol precedence operator).written? (.operator symbol) =
          some (some operator) ∧
        (Change.operator symbol precedence operator).written? (.precedence symbol) =
          some precedence ∧
        (Change.operators operators).written? (.precedence symbol) = none) ∧
    (∀ (engine : Engine) (before first second after : List Change), Apart first second →
      ∀ slot : Slot, slot.read (engine.changed (before ++ first ++ second ++ after)) =
        slot.read (engine.changed (before ++ second ++ first ++ after))) ∧
    ∀ clock options engine, (Table.keys options.bindings).Nodup →
      build (Standard.registry clock) options = .ok engine → ∀ slot : Slot,
        slot.read engine = slot.read ((standard clock).changed (optionChanges options)) := by
  refine ⟨fun engine changes => ⟨read_changed engine changes, rest_changed engine changes⟩, ?_, ?_,
    ?_⟩
  · intro symbol precedence operator operators
    exact ⟨congrArg (Option.map some) (if_pos rfl), if_pos rfl, rfl⟩
  · intro engine before first second after apart slot
    have same : lastWrite? (before ++ first ++ second ++ after) slot =
        lastWrite? (before ++ second ++ first ++ after) slot := by
      rw [List.append_assoc before first, List.append_assoc before second,
        lastWrite?_append _ after, lastWrite?_append _ after, lastWrite?_append before,
        lastWrite?_append before, lastWrite?_swap apart]
    rw [read_changed, read_changed, same]
  · intro clock options engine distinct built slot
    exact read_build distinct built slot

/-- An operator that is replaced and a precedence that is set do not interfere, and the precedence
of the options wins over the standard one. -/
theorem last_write_wins_plus :
    let first : List Change := [.operators [("+", fun left _ => .ok left)]]
    let second : List Change := [.precedences [("+", 7)]]
    let options : Options := { bindings := [("x", .null)], precedences := [("+", 9)] }
    Apart first second ∧
      Slot.read (core.changed ([] ++ second ++ first ++ [])) (.precedence "+") = (7 : Precedence) ∧
      Slot.read (core.changed ([] ++ first ++ second ++ [])) (.precedence "+") = (7 : Precedence) ∧
      (Table.keys options.bindings).Nodup ∧
      ∃ engine, build (Standard.registry ⟨0, 0, 0⟩) options = .ok engine ∧
        Slot.read engine (.precedence "+") = (9 : Precedence) ∧
        Slot.read ((standard ⟨0, 0, 0⟩).changed (optionChanges options)) (.precedence "+") =
          (9 : Precedence) := by
  intro first second options
  obtain ⟨-, -, commute, build_eq⟩ := last_write_wins
  have apart : Apart first second := by
    rintro (name | name | symbol | symbol | symbol)
    case precedence => exact .inl (List.forall_mem_singleton.mpr rfl)
    all_goals exact .inr (List.forall_mem_singleton.mpr rfl)
  have distinct : (Table.keys options.bindings).Nodup := List.nodup_singleton _
  have late : Slot.read (core.changed ([] ++ first ++ second ++ [])) (.precedence "+") =
      (7 : Precedence) := rfl
  obtain ⟨engine, built⟩ : ∃ engine, build (Standard.registry ⟨0, 0, 0⟩) options = .ok engine :=
    ⟨_, rfl⟩
  have changed : Slot.read ((standard ⟨0, 0, 0⟩).changed (optionChanges options))
      (.precedence "+") = (9 : Precedence) := rfl
  refine ⟨apart, ?_, late, distinct, engine, built, ?_, changed⟩
  · exact (commute core [] first second [] apart (.precedence "+")).symm.trans late
  · exact (build_eq _ options engine distinct built (.precedence "+")).trans changed

end Engine

end Reckon
