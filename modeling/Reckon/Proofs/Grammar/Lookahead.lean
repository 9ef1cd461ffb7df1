import Reckon.Proofs.Grammar.Parse

/-!
How far productions read.  They go forward and not past the tokens, and they look at no token behind
the one on which they end: over other tokens that are the same up to there they end in the same way.
So the number of productions inside each other that `fuelFor` allows is never used up.
-/

namespace Reckon

def Frame.over (frame : Frame) (tokens : Array String)
    (invoke : Nat → Callable → List Value → Outcome) : Frame :=
  { frame with tokens, invoke }

section

variable (frame : Frame) (tokens : Array String) (invoke : Nat → Callable → List Value → Outcome)

@[simp]
theorem Frame.over_tokens : (frame.over tokens invoke).tokens = tokens := rfl

@[simp]
theorem Frame.over_bindings : (frame.over tokens invoke).bindings = frame.bindings := rfl

@[simp]
theorem Frame.over_registry : (frame.over tokens invoke).registry = frame.registry := rfl

@[simp]
theorem Frame.over_limit : (frame.over tokens invoke).limit = frame.limit := rfl

/-- Other tokens and calls are those of a frame as far as a reading from one position to another can
tell: the token on which it ends is looked at, and a call happens behind its closing parenthesis. -/
structure Frame.Recurs (start stop : Nat) : Prop where
  token : ∀ position, start ≤ position → position ≤ stop →
    tokens[position]? = frame.tokens[position]?
  call : ∀ name callee, frame.registry.function? name = some callee → ∀ position arguments,
    start < position → position ≤ stop →
      invoke position callee arguments = frame.invoke position callee arguments

end

variable {frame : Frame} {tokens : Array String}
  {invoke : Nat → Callable → List Value → Outcome}

theorem Frame.Recurs.part {start stop first last : Nat}
    (recurs : frame.Recurs tokens invoke start stop) (after : start ≤ first)
    (before : last ≤ stop) : frame.Recurs tokens invoke first last where
  token := by
    intro position low high
    exact recurs.token position (Nat.le_trans after low) (Nat.le_trans high before)
  call := by
    intro name callee registered position arguments behind high
    exact recurs.call name callee registered position arguments
      (Nat.lt_of_le_of_lt after behind) (Nat.le_trans high before)

theorem Frame.lt_size {position : Nat} {token : String}
    (found : frame.tokens[position]? = some token) : position < frame.tokens.size :=
  (Array.getElem?_eq_some_iff.mp found).1

open Parse

/-- A reader of a frame goes forward from a position, as far as `least` if it gives a value, and not
past the tokens.  Its twin does the same over other tokens if these recur where it has been. -/
structure Proceeds (frame : Frame) (tokens : Array String)
    (invoke : Nat → Callable → List Value → Outcome) (start least : Nat) {α : Type}
    (reader twin : Parse α) : Prop where
  forward : start ≤ (reader start).2
  gains : ∀ value, (reader start).1 = .ok value → least ≤ (reader start).2
  inside : (reader start).2 ≤ max start frame.tokens.size
  same : frame.Recurs tokens invoke start (reader start).2 → twin start = reader start

namespace Proceeds

variable {α β : Type} {start least : Nat}

theorem pure (value : α) (low : least ≤ start) :
    Proceeds frame tokens invoke start least (Pure.pure value) (Pure.pure value) where
  forward := Nat.le_refl start
  gains := fun _ _ => low
  inside := Nat.le_max_left ..
  same := fun _ => rfl

theorem fail (error : Error) :
    Proceeds frame tokens invoke start least (Parse.fail error : Parse α) (Parse.fail error) where
  forward := Nat.le_refl start
  gains := nofun
  inside := Nat.le_max_left ..
  same := fun _ => rfl

theorem liftError (result : Except Error α) (low : least ≤ start) :
    Proceeds frame tokens invoke start least (Parse.liftError result) (Parse.liftError result) := by
  cases result with
  | ok value => exact pure value low
  | error error => exact fail error

theorem peek {next following : Option String → Parse β}
    (rest : Proceeds frame tokens invoke start least (next frame.tokens[start]?)
      (following frame.tokens[start]?)) :
    Proceeds frame tokens invoke start least (current frame >>= next)
      (current (frame.over tokens invoke) >>= following) where
  forward := rest.forward
  gains := rest.gains
  inside := rest.inside
  same := by
    intro recurs
    have here := recurs.token start (Nat.le_refl start) rest.forward
    rw [current_bind, current_bind, Frame.over_tokens, here]
    exact rest.same recurs

theorem advance {next following : Unit → Parse β} (room : start < frame.tokens.size)
    (rest : Proceeds frame tokens invoke (start + 1) least (next ()) (following ())) :
    Proceeds frame tokens invoke start least (Parse.advance >>= next)
      (Parse.advance >>= following) where
  forward := Nat.le_of_succ_le rest.forward
  gains := rest.gains
  inside := by
    have within : (next () (start + 1)).2 ≤ max (start + 1) frame.tokens.size := rest.inside
    change (next () (start + 1)).2 ≤ max start frame.tokens.size
    omega
  same := fun recurs => rest.same (recurs.part (Nat.le_succ start) (Nat.le_refl _))

theorem bind {middle : Nat} {first before : Parse α} {next following : α → Parse β}
    (head : Proceeds frame tokens invoke start middle first before)
    (rest : ∀ value reached, start ≤ reached → middle ≤ reached →
      reached ≤ max start frame.tokens.size →
      Proceeds frame tokens invoke reached least (next value) (following value)) :
    Proceeds frame tokens invoke start least (first >>= next) (before >>= following) := by
  obtain ⟨forward, gains, inside, same⟩ := head
  rcases read : first start with ⟨fault | value, reached⟩
  · rw [read] at forward inside same
    have whole : (first >>= next) start = (.error fault, reached) := bind_of_error read
    constructor
    · rw [whole]
      exact forward
    · rw [whole]
      nofun
    · rw [whole]
      exact inside
    · rw [whole]
      exact fun recurs => bind_of_error (same recurs)
  · rw [read] at forward gains inside same
    have whole : (first >>= next) start = next value reached := bind_of_ok read
    have behind := rest value reached forward (gains value rfl) inside
    constructor
    · rw [whole]
      exact Nat.le_trans forward behind.forward
    · rw [whole]
      exact behind.gains
    · rw [whole]
      exact Nat.le_trans behind.inside (Nat.max_le.mpr ⟨inside, Nat.le_max_right ..⟩)
    · rw [whole]
      intro recurs
      have here := same (recurs.part (Nat.le_refl start) behind.forward)
      rw [bind_of_ok here]
      exact behind.same (recurs.part forward (Nat.le_refl _))

theorem weaken {more : Nat} {reader twin : Parse α}
    (proceeds : Proceeds frame tokens invoke start more reader twin) (low : least ≤ more) :
    Proceeds frame tokens invoke start least reader twin :=
  { proceeds with gains := fun value read => Nat.le_trans low (proceeds.gains value read) }

theorem nested (depth : Nat) {inner twin : Nat → Parse Value}
    (within : ∀ depth, Proceeds frame tokens invoke start least (inner depth) (twin depth)) :
    Proceeds frame tokens invoke start least (Production.nested frame depth inner)
      (Production.nested (frame.over tokens invoke) depth twin) := by
  unfold Production.nested
  rw [Frame.over_limit]
  cases frame.limit with
  | none => exact within (depth + 1)
  | some limit =>
      change Proceeds frame tokens invoke start least
        (if limit < depth + 1 then Parse.fail (.nestingTooDeep limit) else inner (depth + 1))
        (if limit < depth + 1 then Parse.fail (.nestingTooDeep limit) else twin (depth + 1))
      split
      · exact fail _
      · exact within (depth + 1)

theorem expect {token : String} {next following : Unit → Parse β}
    (rest : Proceeds frame tokens invoke (start + 1) least (next ()) (following ())) :
    Proceeds frame tokens invoke start least (Parse.expect frame token >>= next)
      (Parse.expect (frame.over tokens invoke) token >>= following) := by
  have split : ∀ (frame : Frame) (next : Unit → Parse β),
      Parse.expect frame token >>= next = (do
        let found ← current frame
        (if found = some token then Parse.advance
          else Parse.fail (.invalidExpression found)) >>= next) :=
    fun frame next => funext (bind_assoc_apply _ _ next)
  rw [split, split]
  apply peek
  by_cases found : frame.tokens[start]? = some token
  · rw [if_pos found]
    exact advance (Frame.lt_size found) rest
  · rw [if_neg found]
    exact fail _

theorem call {callee : Callable} (room : start < frame.tokens.size)
    (registered : ∃ name, frame.registry.function? name = some callee) (arguments : List Value) :
    Proceeds frame tokens invoke start (start + 1)
      (Parse.advance >>= fun _ => Parse.position >>= fun position =>
        Parse.lift (frame.invoke position callee arguments))
      (Parse.advance >>= fun _ => Parse.position >>= fun position =>
        Parse.lift (invoke position callee arguments)) where
  forward := Nat.le_succ start
  gains := fun _ _ => Nat.le_refl _
  inside := Nat.le_trans room (Nat.le_max_right ..)
  same := by
    intro recurs
    obtain ⟨name, registered⟩ := registered
    have called := recurs.call name callee registered (start + 1) arguments (Nat.lt_succ_self start)
      (Nat.le_refl _)
    change (invoke (start + 1) callee arguments, start + 1) =
      (frame.invoke (start + 1) callee arguments, start + 1)
    rw [called]

end Proceeds

namespace Production

/-- What has to hold where a production is read: it calls what is registered, and a factor is
there. -/
def ReadableAt (frame : Frame) (position : Nat) : Production → Prop
  | .unary _ => position < frame.tokens.size
  | .arguments callee _ => ∃ name, frame.registry.function? name = some callee
  | _ => True

def gain : Production → Nat
  | .tail .. => 0
  | _ => 1

/-- How many productions stand inside each other at most while one at a position is read. -/
def cost (frame : Frame) (position : Nat) : Production → Nat
  | .expression _ => 3 * (frame.tokens.size - position) + 2
  | .unary _ | .tail .. => 3 * (frame.tokens.size - position) + 1
  | .elements _ | .entries _ | .arguments .. => 3 * (frame.tokens.size - position) + 3

end Production

open Production

/-- The productions that cost less than a bound proceed. -/
def Supports (frame : Frame) (tokens : Array String)
    (invoke : Nat → Callable → List Value → Outcome) (bound : Nat)
    (again twin : Nat → Production → Parse Value) : Prop :=
  ∀ depth production position, production.ReadableAt frame position →
    production.cost frame position < bound →
      Proceeds frame tokens invoke position (position + production.gain) (again depth production)
        (twin depth production)

namespace Supports

variable {again twin : Nat → Production → Parse Value} {bound : Nat}
  (supports : Supports frame tokens invoke bound again twin) (depth start : Nat)

include supports

theorem expression (floor : Precedence)
    (enough : 3 * (frame.tokens.size - start) + 2 < bound) :
    Proceeds frame tokens invoke start (start + 1) (again depth (.expression floor))
      (twin depth (.expression floor)) :=
  supports depth (.expression floor) start trivial enough

theorem unary (token : String) (inside : start < frame.tokens.size)
    (enough : 3 * (frame.tokens.size - start) + 1 < bound) :
    Proceeds frame tokens invoke start (start + 1) (again depth (.unary token))
      (twin depth (.unary token)) :=
  supports depth (.unary token) start inside enough

theorem tail (left : Value) (floor : Precedence)
    (enough : 3 * (frame.tokens.size - start) + 1 < bound) :
    Proceeds frame tokens invoke start start (again depth (.tail left floor))
      (twin depth (.tail left floor)) :=
  supports depth (.tail left floor) start trivial enough

theorem chain (token : String) (floor : Precedence) (inside : start < frame.tokens.size)
    (enough : 3 * (frame.tokens.size - start) + 1 < bound) :
    Proceeds frame tokens invoke start (start + 1)
      (again depth (.unary token) >>= fun left => again depth (.tail left floor))
      (twin depth (.unary token) >>= fun left => twin depth (.tail left floor)) := by
  apply (supports.unary depth start token inside enough).bind
  intro left reached _ _ _
  have rest := supports.tail depth reached left floor (by omega)
  exact rest.weaken (by omega)

theorem operand (enough : 3 * (frame.tokens.size - start) + 1 < bound) :
    Proceeds frame tokens invoke start (start + 1) (Production.operand frame again depth)
      (Production.operand (frame.over tokens invoke) twin depth) := by
  apply Proceeds.peek
  rcases found : frame.tokens[start]? with _ | token
  · exact .fail _
  · exact supports.unary depth start token (Frame.lt_size found) enough

omit supports in
theorem name (token : String) (inside : start < frame.tokens.size) :
    Proceeds frame tokens invoke start (start + 1) (Production.name frame token)
      (Production.name (frame.over tokens invoke) token) := by
  apply Proceeds.advance inside
  simp only [Frame.over_bindings]
  cases Grammar.lookup frame.bindings token with
  | ok value => exact .pure value (Nat.le_refl _)
  | error error =>
      apply Proceeds.peek
      split <;> exact .fail _

theorem callOf {name : String} {callee : Callable}
    (registered : frame.registry.function? name = some callee) (inside : start < frame.tokens.size)
    (enough : 3 * (frame.tokens.size - start) < bound) :
    Proceeds frame tokens invoke start (start + 1) (Production.callOf frame again depth callee)
      (Production.callOf (frame.over tokens invoke) twin depth callee) := by
  apply Proceeds.advance inside
  apply Proceeds.expect
  have rest := supports depth (.arguments callee []) (start + 2) ⟨name, registered⟩
    (by simp only [cost]; omega)
  exact rest.weaken (by omega)

theorem factor (token : String) (inside : start < frame.tokens.size)
    (enough : 3 * (frame.tokens.size - start) < bound) :
    Proceeds frame tokens invoke start (start + 1) (Production.factor frame again depth token)
      (Production.factor (frame.over tokens invoke) twin depth token) := by
  have low := Nat.le_refl (start + 1)
  unfold Production.factor
  split
  · apply Proceeds.advance inside
    apply (supports.expression depth (start + 1) 0 (by omega)).bind
    intro value reached _ _ _
    apply Proceeds.expect
    exact .pure value (by omega)
  split
  · exact .advance inside (.pure _ low)
  split
  · exact .advance inside (.pure _ low)
  split
  · exact .advance inside (.pure _ low)
  split
  · apply Proceeds.advance inside
    have rest := supports depth (.elements []) (start + 1) trivial (by simp only [cost]; omega)
    exact rest.weaken (by omega)
  split
  · apply Proceeds.advance inside
    have rest := supports depth (.entries []) (start + 1) trivial (by simp only [cost]; omega)
    exact rest.weaken (by omega)
  split
  · exact .advance inside (.pure (Path.resolve frame.bindings token) low)
  simp only [Frame.over_registry]
  rcases callable : frame.registry.function? token with _ | callee
  · change Proceeds frame tokens invoke start (start + 1)
      (if (frame.registry.operator? token).isSome || Grammar.isPunctuation token then
        Parse.fail (.invalidExpression (some token))
      else Production.name frame token)
      (if (frame.registry.operator? token).isSome || Grammar.isPunctuation token then
        Parse.fail (.invalidExpression (some token))
      else Production.name (frame.over tokens invoke) token)
    split
    · exact .fail _
    · exact name start token inside
  · exact supports.callOf depth start callable inside enough

theorem unaryOrFactor (token : String) (inside : start < frame.tokens.size)
    (enough : 3 * (frame.tokens.size - start) < bound) :
    Proceeds frame tokens invoke start (start + 1)
      (Production.unaryOrFactor frame again depth token)
      (Production.unaryOrFactor (frame.over tokens invoke) twin depth token) := by
  unfold Production.unaryOrFactor
  simp only [Frame.over_registry]
  cases frame.registry.unaryOperator? token with
  | none => exact supports.factor depth start token inside enough
  | some operator =>
      apply Proceeds.advance inside
      have operand := Proceeds.nested depth
        fun inner => supports.operand inner (start + 1) (by omega)
      apply operand.bind
      intro value reached _ _ _
      exact .liftError _ (by omega)

theorem climb (left : Value) (floor : Precedence)
    (enough : 3 * (frame.tokens.size - start) < bound) :
    Proceeds frame tokens invoke start start (Production.climb frame again depth left floor)
      (Production.climb (frame.over tokens invoke) twin depth left floor) := by
  apply Proceeds.peek
  rcases found : frame.tokens[start]? with _ | token
  · exact .pure left (Nat.le_refl start)
  · have inside := Frame.lt_size found
    simp only [Frame.over_registry]
    cases frame.registry.operator? token with
    | none => exact .pure left (Nat.le_refl start)
    | some operator =>
        change Proceeds frame tokens invoke start start
          (if frame.registry.precedence token < floor then Pure.pure left else _)
          (if frame.registry.precedence token < floor then Pure.pure left else _)
        split
        · exact .pure left (Nat.le_refl start)
        · apply Proceeds.advance inside
          apply (supports.expression depth (start + 1)
            (frame.registry.precedence token).next (by omega)).bind
          intro right reached _ _ _
          apply (Proceeds.liftError (operator left right) (Nat.le_refl reached)).bind
          intro folded behind _ _ _
          have rest := supports.tail depth behind folded floor (by omega)
          exact rest.weaken (by omega)

theorem restOfArray (done : List Value)
    (enough : 3 * (frame.tokens.size - start) + 2 < bound) :
    Proceeds frame tokens invoke start (start + 1)
      (Production.restOfArray frame again depth done)
      (Production.restOfArray (frame.over tokens invoke) twin depth done) := by
  apply Proceeds.peek
  split
  · rename_i closed
    exact .advance (Frame.lt_size closed) (.pure _ (Nat.le_refl _))
  · apply (supports.expression depth start 0 enough).bind
    intro item reached _ _ _
    apply Proceeds.peek
    have again := fun position (behind : start + 1 ≤ position)
        (room : reached < frame.tokens.size) =>
      (supports depth (.elements (item :: done)) position trivial
        (by simp only [cost]; omega)).weaken (Nat.le_succ_of_le behind)
    split
    · rename_i comma
      apply Proceeds.advance (Frame.lt_size comma)
      apply Proceeds.peek
      split
      · exact .fail _
      · exact again (reached + 1) (by omega) (Frame.lt_size comma)
    · rename_i closed
      exact again reached (by omega) (Frame.lt_size closed)
    · exact .fail _

theorem entry (done : Table Value) {key : String} (here : frame.tokens[start]? = some key)
    (enough : 3 * (frame.tokens.size - start) + 2 < bound) :
    Proceeds frame tokens invoke start (start + 1)
      (Production.entry frame again depth done key)
      (Production.entry (frame.over tokens invoke) twin depth done key) := by
  have inside := Frame.lt_size here
  unfold Production.entry
  split
  · rename_i token _
    have operand := Proceeds.nested depth
      fun inner => supports.chain inner start token 0 inside (by omega)
    apply operand.bind
    intro value reached _ _ _
    split
    · exact .pure _ (by omega)
    · exact .fail _
  · split
    · exact .fail _
    · apply Proceeds.advance inside
      apply Proceeds.peek
      split
      · exact .fail _
      · rename_i colon
        have colon : frame.tokens[start + 1]? = some ":" := by simpa using colon
        apply Proceeds.advance (Frame.lt_size colon)
        apply Proceeds.peek
        split
        · exact .fail _
        · apply (supports.expression depth (start + 2) 0 (by omega)).bind
          intro value reached _ _ _
          exact .pure _ (by omega)

theorem restOfObject (done : Table Value)
    (enough : 3 * (frame.tokens.size - start) + 2 < bound) :
    Proceeds frame tokens invoke start (start + 1)
      (Production.restOfObject frame again depth done)
      (Production.restOfObject (frame.over tokens invoke) twin depth done) := by
  apply Proceeds.peek
  rcases here : frame.tokens[start]? with _ | key
  · exact .fail _
  · have inside := Frame.lt_size here
    apply (supports.entry depth start done here enough).bind
    intro written reached _ _ _
    apply Proceeds.peek
    split
    · rename_i closed
      exact .advance (Frame.lt_size closed) (.pure _ (by omega))
    · rename_i comma
      apply Proceeds.advance (Frame.lt_size comma)
      have rest := supports depth (.entries written) (reached + 1) trivial
        (by simp only [cost]; omega)
      exact rest.weaken (by simp only [gain]; omega)
    · exact .fail _

theorem restOfArguments {callee : Callable} (done : List Value)
    (registered : ∃ name, frame.registry.function? name = some callee)
    (enough : 3 * (frame.tokens.size - start) + 2 < bound) :
    Proceeds frame tokens invoke start (start + 1)
      (Production.restOfArguments frame again depth callee done)
      (Production.restOfArguments (frame.over tokens invoke) twin depth callee done) := by
  apply Proceeds.peek
  split
  · rename_i closed
    exact Proceeds.call (Frame.lt_size closed) registered _
  · apply (supports.expression depth start 0 enough).bind
    intro argument reached _ _ _
    apply Proceeds.peek
    have again := fun position (behind : start + 1 ≤ position) =>
      (supports depth (.arguments callee (argument :: done)) position registered
        (by simp only [cost]; omega)).weaken (Nat.le_succ_of_le behind)
    split
    · rename_i comma
      apply Proceeds.advance (Frame.lt_size comma)
      apply Proceeds.peek
      split
      · exact .fail _
      · exact again (reached + 1) (by omega)
    · exact again reached (by omega)

theorem step (production : Production) (readable : production.ReadableAt frame start)
    (enough : production.cost frame start = bound) :
    Proceeds frame tokens invoke start (start + production.gain)
      (Production.step frame again depth production)
      (Production.step (frame.over tokens invoke) twin depth production) := by
  subst enough
  cases production with
  | expression floor =>
      unfold Production.step
      apply Proceeds.nested depth
      intro inner
      apply (supports.operand inner start (by simp only [cost]; omega)).bind
      intro left reached _ _ _
      have rest := supports.tail inner reached left floor (by simp only [cost]; omega)
      exact rest.weaken (by simp only [gain]; omega)
  | unary token =>
      exact supports.unaryOrFactor depth start token readable (by simp only [cost]; omega)
  | tail left floor => exact supports.climb depth start left floor (by simp only [cost]; omega)
  | elements done => exact supports.restOfArray depth start done (by simp only [cost]; omega)
  | entries done => exact supports.restOfObject depth start done (by simp only [cost]; omega)
  | arguments callee done =>
      exact supports.restOfArguments depth start done readable (by simp only [cost]; omega)

end Supports

/-- As many productions inside each other proceed alike, be they enough or not. -/
theorem Production.run_proceeds (tokens : Array String)
    (invoke : Nat → Callable → List Value → Outcome) (fuel depth start : Nat)
    (production : Production) (readable : production.ReadableAt frame start) :
    Proceeds frame tokens invoke start (start + production.gain) (run frame fuel depth production)
      (run (frame.over tokens invoke) fuel depth production) := by
  induction fuel generalizing depth start production with
  | zero =>
      -- Nothing is read, and the end is no value.
      exact {
        forward := Nat.le_refl start
        gains := nofun
        inside := Nat.le_max_left ..
        same := fun _ => rfl }
  | succ fuel ih =>
      have supports : Supports frame tokens invoke (production.cost frame start) (run frame fuel)
          (run (frame.over tokens invoke) fuel) :=
        fun depth production position readable _ => ih depth position production readable
      exact supports.step depth start production readable rfl

/-- Where productions inside each other are enough, any larger number of them does the same. -/
theorem Production.run_enough {fuel more depth start : Nat} {production : Production}
    (readable : production.ReadableAt frame start) (enough : production.cost frame start ≤ fuel)
    (plenty : production.cost frame start ≤ more) :
    run frame more depth production start = run frame fuel depth production start := by
  have proceeds : Proceeds frame frame.tokens frame.invoke start (start + production.gain)
      (run frame fuel depth production) (run frame more depth production) := by
    induction fuel generalizing more depth start production with
    | zero => cases production <;> cases enough
    | succ fuel ih =>
        obtain ⟨more, rfl⟩ : ∃ less, more = less + 1 := by
          cases more with
          | zero => cases production <;> cases plenty
          | succ less => exact ⟨less, rfl⟩
        have supports : Supports frame frame.tokens frame.invoke (production.cost frame start)
            (run frame fuel) (run frame more) := by
          intro depth inner position readable less
          exact ih readable (by omega) (by omega)
        exact supports.step depth start production readable rfl
  exact proceeds.same ⟨fun _ _ _ => rfl, fun _ _ _ _ _ _ _ => rfl⟩

theorem Frame.run_eq_expression (frame : Frame) {fuel : Nat}
    (enough : fuelFor frame.tokens.size ≤ fuel) (depth : Nat) (floor : Precedence) (start : Nat) :
    run frame fuel depth (.expression floor) start = frame.expression depth floor start := by
  have cost : (Production.expression floor).cost frame start ≤ fuelFor frame.tokens.size := by
    simp only [Production.cost, fuelFor]
    omega
  exact run_enough trivial cost (Nat.le_trans cost enough)

/-- An expression consumes a token if it has a value, it ends within the tokens, and it ends in the
same way over other tokens that recur up to where it ends. -/
theorem Frame.expression_proceeds (frame : Frame) (tokens : Array String)
    (invoke : Nat → Callable → List Value → Outcome) (depth : Nat) (floor : Precedence)
    (start : Nat) :
    Proceeds frame tokens invoke start (start + 1) (frame.expression depth floor)
      ((frame.over tokens invoke).expression depth floor) := by
  have here := frame.run_eq_expression (Nat.le_max_left (fuelFor frame.tokens.size)
    (fuelFor tokens.size)) depth floor start
  have there := (frame.over tokens invoke).run_eq_expression (Nat.le_max_right
    (fuelFor frame.tokens.size) (fuelFor tokens.size)) depth floor start
  obtain ⟨forward, gains, inside, same⟩ := @run_proceeds frame tokens invoke
    (max (fuelFor frame.tokens.size) (fuelFor tokens.size)) depth start (.expression floor) trivial
  rw [here] at forward gains inside same
  rw [there] at same
  exact ⟨forward, gains, inside, same⟩

end Reckon
