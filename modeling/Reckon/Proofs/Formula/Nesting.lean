import Reckon.Proofs.Formula.Outline
import Reckon.Proofs.Formula.Role
import Reckon.Proofs.Grammar.Families

/-!
Readings under a limit of what is read without one.  They come to the same as far as the limit
allows the levels that the outline of what is read takes, and exceed it from there on.
-/

namespace Reckon

open Parse Production

namespace Production

variable {frame : Frame} (again : Nat → Production → Parse Value) (depth : Nat) {position : Nat}

theorem climb_of_loose {left : Value} {floor : Precedence}
    (loose : Formula.Loose frame.registry frame.tokens floor position) :
    climb frame again depth left floor position = (pure left : Parse Value) position := by
  rw [climb, current_bind]
  rcases here : frame.tokens[position]? with _ | symbol
  · rfl
  · rcases found : frame.registry.operator? symbol with _ | operator
    · simp [found]
    · rcases loose symbol here with missing | stops
      · rw [missing] at found
        cases found
      · simp [found, stops]

theorem climb_of_tight {left : Value} {floor : Precedence} {symbol : String}
    {operator : BinaryOperator} (here : frame.tokens[position]? = some symbol)
    (found : frame.registry.operator? symbol = some operator)
    (tight : ¬frame.registry.precedence symbol < floor) :
    climb frame again depth left floor position = (do
      advance
      let right ← again depth (.expression (frame.registry.precedence symbol).next)
      let folded ← liftError (operator left right)
      again depth (.tail folded floor)) position := by
  rw [climb, current_bind]
  simp only [here, found, if_neg tight]

theorem stop_of_name {token : String} {value : Value} {reached : Nat}
    (read : Production.name frame token position = (.ok value, reached)) :
    reached = position + 1 := by
  rw [Production.name, advance_bind] at read
  cases found : Grammar.lookup frame.bindings token with
  | ok known =>
      rw [found] at read
      exact (Prod.mk.inj read).2.symm
  | error error =>
      by_cases called : frame.tokens[position + 1]? = some "("
      · simp [found, called] at read
      · simp [found] at read

end Production

/-- Where the free reader has a value, the tight one has it too and both stop at the same place if
`level` is within the limit; else the tight one exceeds the limit. -/
def Capped (limit level : Nat) {α : Type} (free tight : Parse α) (start stop : Nat) : Prop :=
  ∀ value reached, free start = (.ok value, reached) →
    (level ≤ limit → reached = stop ∧ tight start = (.ok value, stop)) ∧
      (limit < level → (tight start).1 = .error (.raised (.nestingTooDeep limit)))

namespace Capped

variable {α β : Type} {limit level more : Nat} {start middle stop : Nat}

theorem of_stops {reader : Parse α} (within : level ≤ limit)
    (stops : ∀ value reached, reader start = (.ok value, reached) → reached = stop) :
    Capped limit level reader reader start stop := by
  intro value reached read
  obtain rfl := stops value reached read
  exact ⟨fun _ => ⟨rfl, read⟩, fun exceeded => absurd within (Nat.not_le.mpr exceeded)⟩

theorem pure (within : level ≤ limit) (value : α) :
    Capped limit level (Pure.pure value) (Pure.pure value) start start := by
  apply of_stops within
  intro found reached read
  cases read
  rfl

theorem lift (within : level ≤ limit) (result : Except Fault α) :
    Capped limit level (Parse.lift result) (Parse.lift result) start start := by
  apply of_stops within
  intro value reached read
  exact (Prod.mk.inj read).2.symm

theorem liftError (within : level ≤ limit) (result : Except Error α) :
    Capped limit level (Parse.liftError result) (Parse.liftError result) start start := by
  apply of_stops within
  intro value reached read
  cases result <;> exact (Prod.mk.inj read).2.symm

theorem of_eq {free tight plainFree plainTight : Parse α} (freely : free start = plainFree start)
    (tightly : tight start = plainTight start)
    (capped : Capped limit level plainFree plainTight start stop) :
    Capped limit level free tight start stop := by
  intro value reached read
  rw [tightly]
  exact capped value reached (freely.symm.trans read)

theorem of_error {free tight : Parse α} {fault : Fault}
    (failed : (free start).1 = .error fault) : Capped limit level free tight start stop := by
  intro value reached read
  rw [read] at failed
  cases failed

theorem bind {first tightFirst : Parse α} {next tightNext : α → Parse β} {whole : Nat}
    (before : Capped limit level first tightFirst start middle)
    (after : ∀ value, Capped limit more (next value) (tightNext value) middle stop)
    (deeper : whole = max level more) :
    Capped limit whole (first >>= next) (tightFirst >>= tightNext) start stop := by
  intro value reached read
  rcases bind_cases first next start with ⟨fault, last, -, both⟩ | ⟨inner, last, found, both⟩
  · cases read.symm.trans both
  obtain ⟨fits, exceeds⟩ := before inner last found
  rcases Nat.lt_or_ge limit level with deep | room
  · refine ⟨by omega, fun _ => ?_⟩
    have fault := exceeds deep
    rcases there : tightFirst start with ⟨result, place⟩
    obtain rfl : result = _ := by simpa [there] using fault
    rw [bind_of_error there]
  · obtain ⟨rfl, there⟩ := fits room
    rw [bind_of_ok there]
    have rest := after inner value reached (both.symm.trans read)
    exact ⟨fun within => rest.1 (by omega), fun beyond => rest.2 (by omega)⟩

variable {frame : Frame} {invoke : Nat → Callable → List Value → Outcome}

theorem peek {next tightNext : Option String → Parse α}
    (after : Capped limit level (next frame.tokens[start]?) (tightNext frame.tokens[start]?) start
      stop) :
    Capped limit level (current frame >>= next)
      (current (frame.vary (some limit) invoke) >>= tightNext) start stop :=
  after

theorem advance {next tightNext : Unit → Parse α}
    (after : Capped limit level (next ()) (tightNext ()) (start + 1) stop) :
    Capped limit level (Parse.advance >>= next) (Parse.advance >>= tightNext) start stop :=
  after

theorem expect {token : String} {next tightNext : Unit → Parse α}
    (here : frame.tokens[start]? = some token)
    (after : Capped limit level (next ()) (tightNext ()) (start + 1) stop) :
    Capped limit level (Parse.expect frame token >>= next)
      (Parse.expect (frame.vary (some limit) invoke) token >>= tightNext) start stop := by
  have same : Parse.expect (frame.vary (some limit) invoke) token = Parse.expect frame token := rfl
  intro value reached read
  rw [expect_bind, if_pos here] at read
  rw [same, expect_bind, if_pos here]
  exact after value reached read

/-- What is one level deeper is capped if it is so where the limit allows this level. -/
theorem nested {depth : Nat} {inner tightInner : Nat → Parse Value} (deeper : depth + 1 ≤ level)
    (within : depth + 1 ≤ limit →
      Capped limit level (inner (depth + 1)) (tightInner (depth + 1)) start stop)
    (unlimited : frame.limit = none) :
    Capped limit level (Production.nested frame depth inner)
      (Production.nested (frame.vary (some limit) invoke) depth tightInner) start stop := by
  have free : Production.nested frame depth inner = inner (depth + 1) := by
    simp [Production.nested, unlimited]
  by_cases exceeded : limit < depth + 1
  · have tight : Production.nested (frame.vary (some limit) invoke) depth tightInner =
        fail (.nestingTooDeep limit) := by
      simp [Production.nested, exceeded]
    rw [free, tight]
    intro value reached read
    exact ⟨by omega, fun _ => rfl⟩
  · have tight : Production.nested (frame.vary (some limit) invoke) depth tightInner =
        tightInner (depth + 1) := by
      simp [Production.nested, exceeded]
    rw [free, tight]
    exact within (Nat.not_lt.mp exceeded)

end Capped

namespace Formula

open Outline

variable (frame : Frame) (limit : Nat) (invoke : Nat → Callable → List Value → Outcome)

/-- A production is capped at as many levels below its depth as the outlines take. -/
def CappedAt (outlines : List Outline) (start stop fuel depth : Nat) (production : Production) :
    Prop :=
  Capped limit (depth + deepest outlines) (run frame fuel depth production)
    (run (frame.vary (some limit) invoke) fuel depth production) start stop

/-- A part with its outlines is capped, at every depth that the limit allows and whatever was read
before it. -/
def CappedPart (part : Part) (outlines : List Outline) (start stop : Nat) : Prop :=
  ∀ fuel depth, depth ≤ limit →
    match part with
    | .expression floor =>
        CappedAt frame limit invoke outlines start stop fuel depth (.expression floor)
    | .unary token => CappedAt frame limit invoke outlines start stop fuel depth (.unary token)
    | .tail floor =>
        ∀ left, CappedAt frame limit invoke outlines start stop fuel depth (.tail left floor)
    | .elements =>
        ∀ done, CappedAt frame limit invoke outlines start stop fuel depth (.elements done)
    | .entries =>
        ∀ done, CappedAt frame limit invoke outlines start stop fuel depth (.entries done)
    | .arguments =>
        ∀ name callee done, frame.registry.function? name = some callee →
          CappedAt frame limit invoke outlines start stop fuel depth (.arguments callee done)
    | .entry =>
        ∀ key done, frame.tokens[start]? = some key →
          Capped limit (depth + deepest outlines)
            (Production.entry frame (run frame fuel) depth done key)
            (Production.entry (frame.vary (some limit) invoke)
              (run (frame.vary (some limit) invoke) fuel) depth done key) start stop

variable {frame limit invoke} {outlines : List Outline} {start middle next stop fuel depth : Nat}

/-- Of productions that get no fuel nothing is claimed, so a production is capped if one step of it
is. -/
theorem CappedAt.of_step {production : Production}
    (step : ∀ fuel, Capped limit (depth + deepest outlines)
      (Production.step frame (run frame fuel) depth production)
      (Production.step (frame.vary (some limit) invoke) (run (frame.vary (some limit) invoke) fuel)
        depth production) start stop) :
    CappedAt frame limit invoke outlines start stop fuel depth production := by
  cases fuel with
  | zero => exact .of_error rfl
  | succ fuel => exact step fuel

namespace CappedPart

variable {floor : Precedence} {token : String} {first item right : Outline}
  {operands others inside : List Outline}

theorem unaryOperand (here : frame.tokens[start]? = some token)
    (inner : CappedPart frame limit invoke (.unary token) outlines start stop)
    (within : depth ≤ limit) :
    Capped limit (depth + deepest outlines) (operand frame (run frame fuel) depth)
      (operand (frame.vary (some limit) invoke) (run (frame.vary (some limit) invoke) fuel) depth)
      start stop := by
  apply Capped.peek
  simp only [here]
  exact inner fuel depth within

theorem expression (unlimited : frame.limit = none) (here : frame.tokens[start]? = some token)
    (leading : CappedPart frame limit invoke (.unary token) [first] start middle)
    (rest : CappedPart frame limit invoke (.tail floor) operands middle stop) :
    CappedPart frame limit invoke (.expression floor) [.expression first operands] start stop := by
  intro fuel depth _
  apply CappedAt.of_step
  intro fuel
  simp only [step]
  refine .nested ?_ (fun within => ?_) unlimited
  · rw [add_deepest_expression]
    omega
  · exact .bind (leading.unaryOperand here within) (rest fuel (depth + 1) within)
      (add_deepest_expression ..)

theorem loose (loose : Loose frame.registry frame.tokens floor start) :
    CappedPart frame limit invoke (.tail floor) [] start start := by
  intro fuel depth within left
  apply CappedAt.of_step
  intro fuel
  have same : Loose (frame.vary (some limit) invoke).registry
    (frame.vary (some limit) invoke).tokens floor start := loose
  exact .of_eq (climb_of_loose _ _ loose) (climb_of_loose _ _ same) (.pure within left)

theorem tight {symbol : String} (here : frame.tokens[start]? = some symbol)
    (registered : (frame.registry.operator? symbol).isSome)
    (tight : ¬frame.registry.precedence symbol < floor)
    (operand : CappedPart frame limit invoke
      (.expression (frame.registry.precedence symbol).next) [right] (start + 1) middle)
    (rest : CappedPart frame limit invoke (.tail floor) operands middle stop) :
    CappedPart frame limit invoke (.tail floor) (right :: operands) start stop := by
  intro fuel depth within left
  obtain ⟨operator, found⟩ := Option.isSome_iff_exists.mp registered
  apply CappedAt.of_step
  intro fuel
  have vary := @climb_of_tight (frame.vary (some limit) invoke)
    (run (frame.vary (some limit) invoke) fuel) depth start left floor symbol operator here
    found tight
  refine .of_eq (climb_of_tight _ _ here found tight) vary ?_
  apply Capped.advance
  refine .bind (operand fuel depth within) (fun value => ?_) (add_deepest_cons ..)
  exact .bind (.liftError within _) (fun folded => rest fuel depth within folded)
    (Nat.max_eq_right (Nat.le_add_right ..)).symm

theorem of_factor (reads : ∀ fuel depth, depth ≤ limit →
    Capped limit (depth + deepest outlines)
      (unaryOrFactor frame (run frame fuel) depth token)
      (unaryOrFactor (frame.vary (some limit) invoke) (run (frame.vary (some limit) invoke) fuel)
        depth token) start stop) :
    CappedPart frame limit invoke (.unary token) outlines start stop :=
  fun _ depth within => CappedAt.of_step fun fuel => reads fuel depth within

theorem unaryOperator {next : String} (unlimited : frame.limit = none)
    (kind : role frame.registry token = .unaryOperator)
    (more : frame.tokens[start + 1]? = some next)
    (inner : CappedPart frame limit invoke (.unary next) [item] (start + 1) stop) :
    CappedPart frame limit invoke (.unary token) [.unary item] start stop := by
  refine of_factor fun fuel depth within => ?_
  obtain ⟨operator, found, free⟩ :=
    @unaryOrFactor_of_operator frame token (run frame fuel) depth kind
  obtain ⟨same, again, tight⟩ :=
    @unaryOrFactor_of_operator (frame.vary (some limit) invoke) token
      (run (frame.vary (some limit) invoke) fuel) depth kind
  obtain rfl : operator = same := Option.some.inj (found.symm.trans again)
  rw [free, tight, add_deepest_unary]
  apply Capped.advance
  refine .bind (.nested (Nat.le_add_right ..) (fun within => ?_) unlimited)
    (fun value => .liftError within _) (Nat.max_eq_left (by omega)).symm
  exact inner.unaryOperand more within

theorem parentheses (kind : role frame.registry token = .parenthesis)
    (inner : CappedPart frame limit invoke (.expression 0) [item] (start + 1) middle)
    (closed : frame.tokens[middle]? = some ")") :
    CappedPart frame limit invoke (.unary token) [.brackets [item]] start (middle + 1) := by
  refine of_factor fun fuel depth within => ?_
  have tight := @unaryOrFactor_of_parenthesis (frame.vary (some limit) invoke) token
    (run (frame.vary (some limit) invoke) fuel) depth kind
  rw [unaryOrFactor_of_parenthesis _ _ kind, tight, add_deepest_brackets]
  apply Capped.advance
  refine .bind (inner fuel depth within) (fun value => ?_)
    (Nat.max_eq_left (Nat.le_add_right ..)).symm
  exact .expect closed (.pure within value)

theorem literal {value : Value} (kind : role frame.registry token = .literal value) :
    CappedPart frame limit invoke (.unary token) [.plain] start (start + 1) := by
  refine of_factor fun fuel depth within => ?_
  have tight := @unaryOrFactor_of_literal (frame.vary (some limit) invoke) token
    (run (frame.vary (some limit) invoke) fuel) depth value kind
  rw [unaryOrFactor_of_literal _ _ kind, tight]
  exact .advance (.pure within value)

theorem path (kind : role frame.registry token = .path) :
    CappedPart frame limit invoke (.unary token) [.plain] start (start + 1) := by
  refine of_factor fun fuel depth within => ?_
  have tight := @unaryOrFactor_of_path (frame.vary (some limit) invoke) token
    (run (frame.vary (some limit) invoke) fuel) depth kind
  rw [unaryOrFactor_of_path _ _ kind, tight]
  exact .advance (.pure within _)

theorem name (kind : role frame.registry token = .name) :
    CappedPart frame limit invoke (.unary token) [.plain] start (start + 1) := by
  refine of_factor fun fuel depth within => ?_
  have tight := @unaryOrFactor_of_name (frame.vary (some limit) invoke) token
    (run (frame.vary (some limit) invoke) fuel) depth kind
  rw [unaryOrFactor_of_name _ _ kind, tight]
  exact .of_stops within fun value reached read => stop_of_name read

theorem array (kind : role frame.registry token = .array)
    (rest : CappedPart frame limit invoke .elements inside (start + 1) stop) :
    CappedPart frame limit invoke (.unary token) [.brackets inside] start stop := by
  refine of_factor fun fuel depth within => ?_
  have tight := @unaryOrFactor_of_array (frame.vary (some limit) invoke) token
    (run (frame.vary (some limit) invoke) fuel) depth kind
  rw [unaryOrFactor_of_array _ _ kind, tight, add_deepest_brackets]
  exact .advance (rest fuel depth within [])

theorem object (kind : role frame.registry token = .object)
    (rest : CappedPart frame limit invoke .entries inside (start + 1) stop) :
    CappedPart frame limit invoke (.unary token) [.brackets inside] start stop := by
  refine of_factor fun fuel depth within => ?_
  have tight := @unaryOrFactor_of_object (frame.vary (some limit) invoke) token
    (run (frame.vary (some limit) invoke) fuel) depth kind
  rw [unaryOrFactor_of_object _ _ kind, tight, add_deepest_brackets]
  exact .advance (rest fuel depth within [])

theorem call (kind : role frame.registry token = .function)
    (opened : frame.tokens[start + 1]? = some "(")
    (rest : CappedPart frame limit invoke .arguments inside (start + 2) stop) :
    CappedPart frame limit invoke (.unary token) [.brackets inside] start stop := by
  refine of_factor fun fuel depth within => ?_
  obtain ⟨callee, found, free⟩ :=
    @unaryOrFactor_of_function frame token (run frame fuel) depth kind
  obtain ⟨same, again, tight⟩ :=
    @unaryOrFactor_of_function (frame.vary (some limit) invoke) token
      (run (frame.vary (some limit) invoke) fuel) depth kind
  obtain rfl : callee = same := Option.some.inj (found.symm.trans again)
  rw [free, tight, add_deepest_brackets]
  exact .advance (.expect opened (rest fuel depth within token callee [] found))

theorem lastElement (closed : frame.tokens[start]? = some "]") :
    CappedPart frame limit invoke .elements [] start (start + 1) := by
  intro fuel depth within done
  apply CappedAt.of_step
  intro fuel
  apply Capped.peek
  rw [if_pos closed, if_pos closed]
  exact .advance (.pure within _)

theorem element (more : frame.tokens[start]? ≠ some "]")
    (first : CappedPart frame limit invoke (.expression 0) [item] start middle)
    (separated : (frame.tokens[middle]? = some "," ∧ frame.tokens[middle + 1]? ≠ some "]" ∧
      next = middle + 1) ∨ (frame.tokens[middle]? = some "]" ∧ next = middle))
    (rest : CappedPart frame limit invoke .elements others next stop) :
    CappedPart frame limit invoke .elements (item :: others) start stop := by
  intro fuel depth within done
  apply CappedAt.of_step
  intro fuel
  apply Capped.peek
  rw [if_neg more, if_neg more]
  refine .bind (first fuel depth within) (fun value => ?_) (add_deepest_cons ..)
  apply Capped.peek
  have rest := rest fuel depth within (value :: done)
  rcases separated with ⟨comma, proper, rfl⟩ | ⟨closed, rfl⟩
  · simp only [comma]
    apply Capped.advance
    apply Capped.peek
    rw [if_neg proper, if_neg proper]
    exact rest
  · simp only [closed]
    exact rest

theorem lastArgument (closed : frame.tokens[start]? = some ")")
    (same : ∀ name callee, frame.registry.function? name = some callee → ∀ position arguments,
      invoke position callee arguments = frame.invoke position callee arguments) :
    CappedPart frame limit invoke .arguments [] start (start + 1) := by
  intro fuel depth within name callee done registered
  apply CappedAt.of_step
  intro fuel
  apply Capped.peek
  rw [if_pos closed, if_pos closed]
  apply Capped.advance
  have called : (frame.vary (some limit) invoke).invoke (start + 1) callee done.reverse =
    frame.invoke (start + 1) callee done.reverse := same name callee registered _ _
  exact .of_eq rfl (congrArg (fun result => (result, start + 1)) called) (.lift within _)

theorem argument (more : frame.tokens[start]? ≠ some ")")
    (first : CappedPart frame limit invoke (.expression 0) [item] start middle)
    (separated : (frame.tokens[middle]? = some "," ∧ frame.tokens[middle + 1]? ≠ some ")" ∧
      next = middle + 1) ∨ (frame.tokens[middle]? ≠ some "," ∧ next = middle))
    (rest : CappedPart frame limit invoke .arguments others next stop) :
    CappedPart frame limit invoke .arguments (item :: others) start stop := by
  intro fuel depth within name callee done registered
  apply CappedAt.of_step
  intro fuel
  apply Capped.peek
  rw [if_neg more, if_neg more]
  refine .bind (first fuel depth within) (fun value => ?_) (add_deepest_cons ..)
  apply Capped.peek
  have rest := rest fuel depth within name callee (value :: done) registered
  rcases separated with ⟨comma, proper, rfl⟩ | ⟨other, rfl⟩
  · rw [if_pos comma, if_pos comma]
    apply Capped.advance
    apply Capped.peek
    rw [if_neg proper, if_neg proper]
    exact rest
  · rw [if_neg other, if_neg other]
    exact rest

theorem keyed {key : String} (here : frame.tokens[start]? = some key)
    (plain : Grammar.spreadOperand? key = none) (identifier : Grammar.isIdentifier key = true)
    (colon : frame.tokens[start + 1]? = some ":") (follows : Follows frame.tokens (start + 2))
    (inner : CappedPart frame limit invoke (.expression 0) [item] (start + 2) stop) :
    CappedPart frame limit invoke .entry [item] start stop := by
  intro fuel depth within found done same
  obtain rfl : key = found := Option.some.inj (here.symm.trans same)
  obtain ⟨first, next, brace, comma⟩ := follows
  simp only [Production.entry, plain, identifier, Bool.not_true, Bool.false_eq_true, if_false]
  apply Capped.advance
  apply Capped.peek
  simp only [colon, bne_self_eq_false, Bool.false_eq_true, if_false]
  apply Capped.advance
  apply Capped.peek
  simp only [next, reduceCtorEq, Option.some.injEq, brace, comma]
  exact .bind (inner fuel depth within) (fun value => .pure within _)
    (Nat.max_eq_left (Nat.le_add_right ..)).symm

theorem spread {key : String} (unlimited : frame.limit = none)
    (here : frame.tokens[start]? = some key) (spread : Grammar.spreadOperand? key = some token)
    (leading : CappedPart frame limit invoke (.unary token) [first] start middle)
    (rest : CappedPart frame limit invoke (.tail 0) operands middle stop) :
    CappedPart frame limit invoke .entry [.expression first operands] start stop := by
  intro fuel depth within found done same
  obtain rfl : key = found := Option.some.inj (here.symm.trans same)
  simp only [Production.entry, spread]
  have deeper : depth + 1 ≤ depth + deepest [.expression first operands] := by
    rw [add_deepest_expression]
    omega
  refine .bind (.nested deeper (fun within => ?_) unlimited)
    (fun value => @Capped.of_stops _ limit depth stop stop _ within fun written reached read => ?_)
    (Nat.max_eq_left (Nat.le_add_right ..)).symm
  · exact .bind (leading fuel (depth + 1) within) (rest fuel (depth + 1) within)
      (add_deepest_expression ..)
  · cases entries : Grammar.spreadEntries? value <;> rw [entries] at read <;> cases read
    rfl

theorem lastEntry (first : CappedPart frame limit invoke .entry [item] start middle)
    (closed : frame.tokens[middle]? = some "\x7d") :
    CappedPart frame limit invoke .entries [item] start (middle + 1) := by
  intro fuel depth within done
  apply CappedAt.of_step
  intro fuel
  apply Capped.peek
  rcases here : frame.tokens[start]? with _ | key
  · exact .of_error rfl
  · refine .bind (first fuel depth within key done here) (fun written => ?_)
      (Nat.max_eq_left (Nat.le_add_right ..)).symm
    apply Capped.peek
    simp only [closed]
    exact .advance (.pure within _)

theorem moreEntries (first : CappedPart frame limit invoke .entry [item] start middle)
    (separated : frame.tokens[middle]? = some ",")
    (rest : CappedPart frame limit invoke .entries others (middle + 1) stop) :
    CappedPart frame limit invoke .entries (item :: others) start stop := by
  intro fuel depth within done
  apply CappedAt.of_step
  intro fuel
  apply Capped.peek
  rcases here : frame.tokens[start]? with _ | key
  · exact .of_error rfl
  · refine .bind (first fuel depth within key done here) (fun written => ?_) (add_deepest_cons ..)
    apply Capped.peek
    simp only [separated]
    exact .advance (rest fuel depth within written)

end CappedPart

/-- What is read without a limit is capped at the levels of its outlines. -/
theorem Outlined.capped {part : Part}
    (outlined : Outlined frame.registry frame.tokens part outlines start stop)
    (unlimited : frame.limit = none)
    (same : ∀ name callee, frame.registry.function? name = some callee → ∀ position arguments,
      invoke position callee arguments = frame.invoke position callee arguments) :
    CappedPart frame limit invoke part outlines start stop := by
  induction outlined with
  | expression here _ _ leading rest => exact .expression unlimited here leading rest
  | loose loose => exact .loose loose
  | tight here registered tight _ _ operand rest => exact .tight here registered tight operand rest
  | unaryOperator kind more _ inner => exact .unaryOperator unlimited kind more inner
  | parentheses kind _ closed inner => exact .parentheses kind inner closed
  | literal kind => exact .literal kind
  | array kind _ rest => exact .array kind rest
  | object kind _ rest => exact .object kind rest
  | path kind => exact .path kind
  | call kind opened _ rest => exact .call kind opened rest
  | name kind => exact .name kind
  | lastElement closed => exact .lastElement closed
  | element more _ separated _ first rest => exact .element more first separated rest
  | lastEntry _ closed first => exact .lastEntry first closed
  | moreEntries _ separated _ first rest => exact .moreEntries first separated rest
  | keyed here plain identifier colon follows _ inner =>
      exact .keyed here plain identifier colon follows inner
  | spread here spread _ _ leading rest => exact .spread unlimited here spread leading rest
  | lastArgument closed => exact .lastArgument closed same
  | argument more _ separated _ first rest => exact .argument more first separated rest

end Formula

end Reckon
