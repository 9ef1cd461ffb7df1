import Reckon.Pool

/-!
Operations through the handles of a pool.  Whatever handles are used, a shared pool does what one
engine does that gets all the operations.  In other pools each handle does what an engine of its
own does that gets the operations through this handle, and a clone starts as its original is.
-/

namespace Reckon

inductive Engine.Change
  | bindings (added : Table Value)
  | functions (added : Table Callable)
  | operators (added : Table BinaryOperator)
  | unaryOperators (added : Table UnaryOperator)
  | precedences (added : Table Precedence)
  | function (name : String) (added : Callable)
  | operator (symbol : String) (precedence : Precedence) (added : BinaryOperator)
  | unaryOperator (symbol : String) (added : UnaryOperator)

inductive Operation
  | evaluate (text : String)
  | evaluateWith (text : String) (bindings : Table Value)
  | change (change : Engine.Change)
  | clone

namespace Engine

def Change.apply : Change → Engine → Engine
  | .bindings added, engine => engine.setVariables added
  | .functions added, engine => engine.configure (·.setFunctions added)
  | .operators added, engine => engine.configure (·.setOperators added)
  | .unaryOperators added, engine => engine.configure (·.setUnaryOperators added)
  | .precedences added, engine => engine.configure (·.setPrecedences added)
  | .function name added, engine => engine.configure (·.registerFunction name added)
  | .operator symbol precedence added, engine =>
      engine.configure (·.registerOperator symbol precedence added)
  | .unaryOperator symbol added, engine =>
      engine.configure (·.registerUnaryOperator symbol added)

/-- What an operation returns, if it evaluates something. -/
def answer? (engine : Engine) : Operation → Option Outcome
  | .evaluate text => some (engine.evaluate text)
  | .evaluateWith text bindings => some (engine.evaluateWith text bindings)
  | .change _ | .clone => none

def perform (engine : Engine) : Operation → Engine
  | .change change => change.apply engine
  | .evaluate _ | .evaluateWith .. | .clone => engine

def after (engine : Engine) (operations : List Operation) : Engine :=
  operations.foldl perform engine

/-- What the evaluations among operations return, each after the changes before it. -/
def answers (engine : Engine) : List Operation → List Outcome
  | [] => []
  | operation :: rest =>
      (engine.answer? operation).toList ++ (engine.perform operation).answers rest

end Engine

namespace Pool

structure Command where
  handle : Nat
  operation : Operation

def through (handle : Nat) (commands : List Command) : List Operation :=
  (commands.filter (·.handle == handle)).map (·.operation)

def perform (pool : Pool) (command : Command) : Pool :=
  match command.operation with
  | .change change => pool.update command.handle change.apply
  | .clone => pool.clone command.handle
  | .evaluate _ | .evaluateWith .. => pool

def after (pool : Pool) (commands : List Command) : Pool :=
  commands.foldl perform pool

def answer? (pool : Pool) (command : Command) : Option Outcome :=
  (pool.engine? command.handle).bind (·.answer? command.operation)

/-- What the evaluations among commands return, each with its handle. -/
def answers (pool : Pool) : List Command → List (Nat × Outcome)
  | [] => []
  | command :: rest =>
      (pool.answer? command).toList.map (command.handle, ·) ++ (pool.perform command).answers rest

def answersThrough (pool : Pool) (handle : Nat) (commands : List Command) : List Outcome :=
  ((pool.answers commands).filter (·.1 == handle)).map (·.2)

theorem through_cons (handle : Nat) (command : Command) (rest : List Command) :
    through handle (command :: rest) =
      if command.handle = handle then command.operation :: through handle rest
      else through handle rest := by
  by_cases own : command.handle = handle <;> simp [through, own]

theorem answersThrough_cons (pool : Pool) (handle : Nat) (command : Command)
    (rest : List Command) :
    pool.answersThrough handle (command :: rest) =
      (if command.handle = handle then (pool.answer? command).toList else []) ++
        (pool.perform command).answersThrough handle rest := by
  unfold answersThrough
  rw [answers, List.filter_append, List.map_append]
  by_cases own : command.handle = handle <;>
    cases pool.answer? command <;> simp [own]

def Command.makes (command : Command) : Nat :=
  match command.operation with
  | .clone => 1
  | _ => 0

/-- Whether commands use handles only that were there, or were made by the commands before. -/
def Issued (count : Nat) : List Command → Prop
  | [] => True
  | command :: rest => command.handle < count ∧ Issued (count + command.makes) rest

/-! ## Shared pools -/

/-- All handles stand for one engine. -/
structure Shares (pool : Pool) (engine : Engine) : Prop where
  shared : pool.shared = true
  engines : pool.engines = [engine]
  handles : ∀ place ∈ pool.handles, place = 0

theorem shares_start (engine : Engine) : Shares (start true engine) engine where
  shared := rfl
  engines := rfl
  handles _ member := List.mem_singleton.mp member

namespace Shares

variable {pool : Pool} {engine : Engine} (shares : Shares pool engine)

include shares

theorem place {handle : Nat} (known : handle < pool.handles.length) :
    pool.handles[handle]? = some 0 := by
  rw [List.getElem?_eq_getElem known, shares.handles _ (List.getElem_mem known)]

theorem engine? {handle : Nat} (known : handle < pool.handles.length) :
    pool.engine? handle = some engine := by
  unfold Pool.engine?
  rw [shares.place known, shares.engines]
  rfl

variable {command : Command} (known : command.handle < pool.handles.length)

include known

theorem answer? : pool.answer? command = engine.answer? command.operation := by
  unfold Pool.answer?
  rw [shares.engine? known]
  rfl

theorem perform : Shares (pool.perform command) (engine.perform command.operation) := by
  obtain ⟨handle, operation⟩ := command
  cases operation with
  | evaluate => exact shares
  | evaluateWith => exact shares
  | change change =>
      simp only [Pool.perform, update, shares.place known]
      exact ⟨shares.shared, by rw [shares.engines]; rfl, shares.handles⟩
  | clone =>
      simp only [Pool.perform, clone, shares.place known, shares.engine? known, shares.shared]
      refine ⟨rfl, shares.engines, ?_⟩
      intro place member
      rcases List.mem_append.mp member with old | made
      · exact shares.handles place old
      · exact List.mem_singleton.mp made

theorem length_perform :
    (pool.perform command).handles.length = pool.handles.length + command.makes := by
  obtain ⟨handle, operation⟩ := command
  cases operation with
  | evaluate | evaluateWith => rfl
  | change change => simp [Pool.perform, update, shares.place known, Command.makes]
  | clone =>
      simp [Pool.perform, clone, shares.place known, shares.engine? known, shares.shared,
        Command.makes]

omit known

theorem after {commands : List Command} (issued : Issued pool.handles.length commands) :
    Shares (pool.after commands) (engine.after (commands.map (·.operation))) ∧
      (pool.answers commands).map Prod.snd = engine.answers (commands.map (·.operation)) := by
  induction commands generalizing pool engine with
  | nil => exact ⟨shares, rfl⟩
  | cons command rest ih =>
      obtain ⟨known, issued⟩ := issued
      rw [← shares.length_perform known] at issued
      obtain ⟨whole, same⟩ := ih (shares.perform known) issued
      refine ⟨whole, ?_⟩
      have first : (((pool.answer? command).toList.map (command.handle, ·)).map Prod.snd) =
          (engine.answer? command.operation).toList := by
        rw [shares.answer? known, List.map_map]
        exact List.map_id _
      rw [Pool.answers, List.map_append, first, same]
      rfl

end Shares

/-! ## Pools of separate engines -/

/-- Each handle has an engine of its own, at the place of the handle. -/
structure Separate (pool : Pool) : Prop where
  separate : pool.shared = false
  handles : pool.handles = List.range pool.engines.length

theorem separate_start (engine : Engine) : Separate (start false engine) :=
  ⟨rfl, rfl⟩

namespace Separate

variable {pool : Pool} (separate : Separate pool)

include separate

theorem engine?_eq (handle : Nat) : pool.engine? handle = pool.engines[handle]? := by
  unfold Pool.engine?
  rw [separate.handles]
  by_cases known : handle < pool.engines.length
  · rw [List.getElem?_range known]
    rfl
  · simp [known]

theorem place {handle : Nat} {engine : Engine} (found : pool.engine? handle = some engine) :
    pool.handles[handle]? = some handle := by
  rw [separate.engine?_eq] at found
  obtain ⟨known, -⟩ := List.getElem?_eq_some_iff.mp found
  rw [separate.handles, List.getElem?_range known]

theorem place_eq {handle place : Nat} (found : pool.handles[handle]? = some place) :
    place = handle := by
  rw [separate.handles] at found
  obtain ⟨known, same⟩ := List.getElem?_eq_some_iff.mp found
  rw [← same, List.getElem_range]

theorem update (handle : Nat) (change : Engine → Engine) :
    Separate (pool.update handle change) := by
  unfold Pool.update
  split
  · exact ⟨separate.separate, by simpa using separate.handles⟩
  · exact separate

theorem clone (handle : Nat) : Separate (pool.clone handle) := by
  unfold Pool.clone
  split
  · rw [if_neg (by simp [separate.separate])]
    refine ⟨separate.separate, ?_⟩
    rw [List.length_append, List.length_singleton, List.range_succ, separate.handles]
  · exact separate

theorem perform (command : Command) : Separate (pool.perform command) := by
  unfold Pool.perform
  split
  · exact separate.update ..
  · exact separate.clone _
  · exact separate
  · exact separate

theorem after (commands : List Command) : Separate (pool.after commands) := by
  induction commands generalizing pool with
  | nil => exact separate
  | cons command rest ih => exact ih (separate.perform command)

variable {handle : Nat} {engine : Engine} (found : pool.engine? handle = some engine)

include found

theorem engine?_update (other : Nat) (change : Engine → Engine) :
    (pool.update other change).engine? handle =
      some (if other = handle then change engine else engine) := by
  have known := separate.place found
  rw [(separate.update other change).engine?_eq]
  rw [separate.engine?_eq] at found
  unfold Pool.update
  cases here : pool.handles[other]? with
  | none =>
      have distinct : other ≠ handle := by
        rintro rfl
        rw [known] at here
        cases here
      rw [if_neg distinct]
      exact found
  | some place =>
      rw [separate.place_eq here, List.getElem?_modify, found]
      rfl

theorem engine?_clone (other : Nat) : (pool.clone other).engine? handle = some engine := by
  rw [(separate.clone other).engine?_eq]
  rw [separate.engine?_eq] at found
  unfold Pool.clone
  split
  · rw [if_neg (by simp [separate.separate])]
    obtain ⟨known, -⟩ := List.getElem?_eq_some_iff.mp found
    exact (List.getElem?_append_left known).trans found
  · exact found

theorem engine?_twin : (pool.clone handle).engine? pool.handles.length = some engine := by
  rw [(separate.clone handle).engine?_eq]
  unfold Pool.clone
  simp only [separate.place found, found, separate.separate]
  rw [if_neg (by simp), separate.handles, List.length_range]
  simp

theorem engine?_perform (command : Command) :
    (pool.perform command).engine? handle =
      some (if command.handle = handle then engine.perform command.operation else engine) := by
  obtain ⟨other, operation⟩ := command
  cases operation with
  | evaluate => simpa [Pool.perform, Engine.perform] using found
  | evaluateWith => simpa [Pool.perform, Engine.perform] using found
  | change change => exact separate.engine?_update found other change.apply
  | clone => simpa [Pool.perform, Engine.perform] using separate.engine?_clone found other

theorem engine?_after (commands : List Command) :
    (pool.after commands).engine? handle = some (engine.after (through handle commands)) ∧
      pool.answersThrough handle commands = engine.answers (through handle commands) := by
  induction commands generalizing pool engine with
  | nil => exact ⟨found, rfl⟩
  | cons command rest ih =>
      obtain ⟨whole, same⟩ := ih (separate.perform command) (separate.engine?_perform found command)
      rw [through_cons, answersThrough_cons, same]
      by_cases own : command.handle = handle
      · simp only [if_pos own] at whole ⊢
        have answer : pool.answer? command = engine.answer? command.operation := by
          rw [Pool.answer?, own, found, Option.bind_some]
        rw [answer]
        exact ⟨whole, rfl⟩
      · simp only [if_neg own] at whole ⊢
        exact ⟨whole, rfl⟩

end Separate

/-- Through clones of a shared engine, whichever are used, evaluations return what one engine
returns that gets all the operations in their order, and every handle shows this engine.  After a
clone of a separate engine, the original and the clone each return what an engine does that got
the operations through the original before and only its own ones since. -/
theorem answers_of_clones (engine : Engine) :
    (∀ commands, Issued 1 commands →
      let operations := commands.map (·.operation)
      let pool := (start true engine).after commands
      ((start true engine).answers commands).map Prod.snd = engine.answers operations ∧
        ∀ handle < pool.handles.length, pool.engine? handle = some (engine.after operations)) ∧
      ∀ setup before later parent original,
        ((start false engine).after setup).engine? parent = some original →
        let pool := ((start false engine).after setup).after before
        let common := original.after (through parent before)
        ∀ handle, handle = parent ∨ handle = pool.handles.length →
          (pool.clone parent).answersThrough handle later = common.answers (through handle later) ∧
            ((pool.clone parent).after later).engine? handle =
              some (common.after (through handle later)) := by
  refine ⟨?_, ?_⟩
  · intro commands issued operations pool
    obtain ⟨shares, same⟩ := (shares_start engine).after issued
    exact ⟨same, fun handle known => shares.engine? known⟩
  · intro setup before later parent original found pool common handle either
    have reached := (separate_start engine).after setup
    obtain ⟨here, -⟩ := reached.engine?_after found before
    have separate := reached.after before
    have cloned : (pool.clone parent).engine? handle = some common := by
      rcases either with rfl | rfl
      · exact separate.engine?_clone here handle
      · exact separate.engine?_twin here
    obtain ⟨state, same⟩ := (separate.clone parent).engine?_after cloned later
    exact ⟨same, state⟩

/-- A binding set through a clone is seen through a shared engine, and not through a separate
one. -/
theorem answers_of_clones_bindings :
    let set := Operation.change (.bindings [("x", .boolean true)])
    let later := [⟨1, set⟩, ⟨0, .evaluate "x"⟩, ⟨1, .evaluate "x"⟩]
    let yes : Outcome := .ok (.boolean true)
    Issued 1 (⟨0, .clone⟩ :: later) ∧
      ((start true Engine.core).answers (⟨0, .clone⟩ :: later)).map Prod.snd = [yes, yes] ∧
      (start false Engine.core).engine? 0 = some Engine.core ∧
      ((start false Engine.core).clone 0).answersThrough 0 later =
        [Outcome.raise (.missingVariable "x")] ∧
      ((start false Engine.core).clone 0).answersThrough 1 later = [yes] := by
  intro set later yes
  have issued : Issued 1 (⟨0, .clone⟩ :: later) := by
    simp [later, set, Issued, Command.makes]
  obtain ⟨shared, separate⟩ := answers_of_clones Engine.core
  obtain ⟨both, -⟩ := shared _ issued
  have alone := separate [] [] later 0 Engine.core rfl
  obtain ⟨original, -⟩ := alone 0 (.inl rfl)
  obtain ⟨clone, -⟩ := alone 1 (.inr rfl)
  refine ⟨issued, both.trans ?_, rfl, original.trans ?_, clone.trans ?_⟩
  all_goals
    simp only [later, set, yes]
    rfl

end Pool

end Reckon
