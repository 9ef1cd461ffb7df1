import Reckon.Proofs.Grammar.Families
import Reckon.Proofs.Grammar.Objects

/-!
What errors point at.  An error of the grammar gives no token only where all tokens have been
consumed; else it gives a token that has been read, or the operand that a token leaves where it is
spread into an object.  The same holds of names that have no value.
-/

namespace Reckon

open Parse Production

/-- What an error of the grammar or of a bare name points at: a token, or the end. -/
def Error.near? : Error → Option (Option String)
  | .invalidExpression near | .invalidObject near => some near
  | .missingVariable name => some (some name)
  | _ => none

namespace Frame

variable (frame : Frame)

/-- At a position there is a token, or an entry of an object begins that spreads it. -/
inductive Reads : (position : Nat) → (token : String) → Prop
  | token {position : Nat} {token : String} (here : frame.tokens[position]? = some token) :
      Reads position token
  | operand {depth opened position : Nat} {written : List (String × Value)} {mark token : String}
      (brace : Reads opened "\x7b") (before : frame.EntriesAt depth written (opened + 1) position)
      (here : frame.tokens[position]? = some mark)
      (marked : Grammar.spreadOperand? mark = some token) : Reads position token

/-- At a position an entry of an object begins: a brace is open, and behind it there are complete
entries with a comma behind each. -/
def EntryBegins (depth position : Nat) : Prop :=
  ∃ opened written, frame.Reads opened "\x7b" ∧
    frame.EntriesAt depth written (opened + 1) position

/-- Nothing is pointed at with all tokens consumed, or a token that was read not behind the
cursor. -/
def PointsAt (cursor : Nat) : Option String → Prop
  | none => frame.tokens.size ≤ cursor
  | some token => ∃ position, position ≤ cursor ∧ frame.Reads position token

/-- An operator or a function ends with an error. -/
inductive Reports (error : Error) : Prop
  | operator (given : frame.registry.Gives (.error error))
  | function {name : String} {callee : Callable}
      (registered : frame.registry.function? name = some callee) (position : Nat)
      (arguments : List Value)
      (failed : frame.invoke position callee arguments = .error (.raised error))

/-- An error is that of an operator or a function, or points at what the cursor has got to. -/
def Accounts (cursor : Nat) (error : Error) : Prop :=
  frame.Reports error ∨ ∀ near, error.near? = some near → frame.PointsAt cursor near

variable {frame} {depth start stop : Nat}

theorem Reads.inside {position : Nat} {token : String} (reads : frame.Reads position token) :
    position < frame.tokens.size := by
  cases reads with
  | token here => exact lt_size here
  | operand brace before here => exact lt_size here

theorem Reads.points {position cursor : Nat} {token : String} (reads : frame.Reads position token)
    (behind : position ≤ cursor) : frame.PointsAt cursor (some token) :=
  ⟨position, behind, reads⟩

/-- The token at the cursor, or the end there, is what a reader may always point at. -/
theorem pointsAt_current (cursor : Nat) : frame.PointsAt cursor frame.tokens[cursor]? := by
  cases here : frame.tokens[cursor]? with
  | none => exact Array.getElem?_eq_none_iff.mp here
  | some token => exact (Reads.token here).points (Nat.le_refl cursor)

theorem EntriesAt.snoc {middle : Nat} {entry : EntryValue} {entries written : List (String × Value)}
    (before : frame.EntriesAt depth written start middle)
    (last : frame.EntryAt depth entry middle stop) (writes : entry.Writes entries)
    (comma : frame.tokens[stop]? = some ",") :
    ∃ written, frame.EntriesAt depth written start (stop + 1) := by
  induction before with
  | none => exact ⟨_, .cons last writes comma .none⟩
  | cons first wrote separated rest ih =>
      obtain ⟨others, more⟩ := ih last
      exact ⟨_, .cons first wrote separated more⟩

theorem EntryBegins.next {entry : EntryValue} {entries : List (String × Value)}
    (begins : frame.EntryBegins depth start) (found : frame.EntryAt depth entry start stop)
    (writes : entry.Writes entries) (comma : frame.tokens[stop]? = some ",") :
    frame.EntryBegins depth (stop + 1) := by
  obtain ⟨opened, written, brace, before⟩ := begins
  obtain ⟨written, more⟩ := before.snoc found writes comma
  exact ⟨opened, written, brace, more⟩

theorem entryAt_of_entry {key : String} {done written : Table Value}
    (here : frame.tokens[start]? = some key)
    (read : Production.entry frame frame.production depth done key start = (.ok written, stop)) :
    ∃ entry entries, frame.EntryAt depth entry start stop ∧ entry.Writes entries := by
  cases marked : Grammar.spreadOperand? key with
  | some token =>
      simp only [Production.entry, marked] at read
      change (frame.spreadOperand depth token >>= _) start = _ at read
      rcases bind_cases (frame.spreadOperand depth token) _ start with
        ⟨fault, reached, -, failed⟩ | ⟨value, reached, valued, whole⟩
      · cases failed.symm.trans read
      · have read := whole.symm.trans read
        cases spread : Grammar.spreadEntries? value with
        | none =>
            rw [spread] at read
            cases read
        | some entries =>
            rw [spread] at read
            cases read
            exact ⟨_, entries, .spread here marked valued, EntryValue.writes_spread_iff.mpr spread⟩
  | none =>
      simp only [Production.entry, marked] at read
      by_cases identifier : Grammar.isIdentifier key = true
      · by_cases colon : frame.tokens[start + 1]? = some ":"
        · by_cases follows : Formula.Follows frame.tokens (start + 2)
          · obtain ⟨first, next, brace, comma⟩ := id follows
            rcases bind_cases (frame.production depth (.expression 0))
                (fun value => pure (Table.insert done key value)) (start + 2) with
              ⟨fault, reached, -, failed⟩ | ⟨value, reached, valued, whole⟩
            · simp [identifier, colon, next, brace, comma, failed] at read
            · simp [identifier, colon, next, brace, comma, whole] at read
              obtain ⟨-, rfl⟩ := read
              exact ⟨_, _, .keyed here marked identifier colon follows valued, .keyed key value⟩
          · cases next : frame.tokens[start + 2]? with
            | none => simp [identifier, colon, next] at read
            | some first =>
                by_cases closing : first = "\x7d" ∨ first = ","
                · rcases closing with rfl | rfl <;> simp [identifier, colon, next] at read
                · exact absurd ⟨first, next, not_or.mp closing⟩ follows
        · simp [identifier, colon] at read
      · simp [identifier] at read

theorem production_proceeds (depth : Nat) {production : Production} {position : Nat}
    (readable : production.ReadableAt frame position) :
    Proceeds frame frame.tokens frame.invoke position (position + production.gain)
      (frame.production depth production) (frame.production depth production) :=
  run_proceeds frame.tokens frame.invoke (fuelFor frame.tokens.size) depth position production
    readable

theorem production_supports (bound : Nat) :
    Supports frame frame.tokens frame.invoke bound frame.production frame.production :=
  fun depth _ _ readable _ => frame.production_proceeds depth readable

end Frame

/-- The errors of a reader are accounted for where the reader has got to. -/
def Accounted (frame : Frame) (start : Nat) {α : Type} (reader : Parse α) : Prop :=
  ∀ error cursor, reader start = (.error (.raised error), cursor) → frame.Accounts cursor error

namespace Accounted

variable {frame : Frame} {α β : Type} {start : Nat}

theorem pure (value : α) : Accounted frame start (Pure.pure value) := by
  intro error cursor failed
  cases failed

theorem fail {error : Error}
    (points : ∀ near, error.near? = some near → frame.PointsAt start near) :
    Accounted frame start (Parse.fail error : Parse α) := by
  intro other cursor failed
  cases failed
  exact .inr points

theorem reject {near : Option String} (points : frame.PointsAt start near) :
    Accounted frame start (Parse.fail (.invalidExpression near) : Parse α) := by
  apply fail
  rintro _ ⟨⟩
  exact points

theorem rejectObject {near : Option String} (points : frame.PointsAt start near) :
    Accounted frame start (Parse.fail (.invalidObject near) : Parse α) := by
  apply fail
  rintro _ ⟨⟩
  exact points

theorem liftError {result : Except Error Value} (given : frame.registry.Gives result) :
    Accounted frame start (Parse.liftError result) := by
  intro error cursor failed
  cases result with
  | ok value => cases failed
  | error other =>
      cases failed
      exact .inl (.operator given)

theorem peek {next : Option String → Parse β}
    (rest : Accounted frame start (next frame.tokens[start]?)) :
    Accounted frame start (current frame >>= next) := rest

theorem advance {next : Unit → Parse β} (rest : Accounted frame (start + 1) (next ())) :
    Accounted frame start (Parse.advance >>= next) := rest

theorem expect {token : String} {next : Unit → Parse β}
    (rest : Accounted frame (start + 1) (next ())) :
    Accounted frame start (Parse.expect frame token >>= next) := by
  intro error cursor failed
  rw [expect_bind] at failed
  split at failed
  · exact rest error cursor failed
  · exact reject (α := β) (frame.pointsAt_current start) error cursor failed

/-- After a reader that has a value another one is accounted for from where the first one ends. -/
theorem bind {middle : Nat} {first : Parse α} {next : α → Parse β}
    (proceeds : Proceeds frame frame.tokens frame.invoke start middle first first)
    (head : Accounted frame start first)
    (rest : ∀ value reached, first start = (.ok value, reached) → middle ≤ reached →
      Accounted frame reached (next value)) :
    Accounted frame start (first >>= next) := by
  intro error cursor failed
  rcases bind_cases first next start with
    ⟨fault, reached, read, whole⟩ | ⟨value, reached, read, whole⟩
  · cases whole.symm.trans failed
    exact head error cursor read
  · have behind : middle ≤ reached := by
      have gains := proceeds.gains value
      rw [read] at gains
      exact gains rfl
    exact rest value reached read behind error cursor (whole.symm.trans failed)

theorem nested (depth : Nat) {inner : Nat → Parse Value}
    (within : Accounted frame start (inner (depth + 1))) :
    Accounted frame start (Production.nested frame depth inner) := by
  unfold Production.nested
  cases frame.limit with
  | none => exact within
  | some limit =>
      change Accounted frame start
        (if limit < depth + 1 then Parse.fail (.nestingTooDeep limit) else inner (depth + 1))
      split
      · exact fail nofun
      · exact within

end Accounted

namespace Production

/-- What has to hold of a production for its errors to be accounted for: a factor is what is read
there, an entry begins where it is expected, and what is called is registered. -/
def StandsAt (frame : Frame) (depth position : Nat) : Production → Prop
  | .unary token => frame.Reads position token
  | .entries _ => frame.EntryBegins depth position
  | .arguments callee _ => ∃ name, frame.registry.function? name = some callee
  | _ => True

theorem StandsAt.readable {frame : Frame} {depth position : Nat} {production : Production}
    (stands : production.StandsAt frame depth position) :
    production.ReadableAt frame position := by
  cases production with
  | unary token => exact Frame.Reads.inside stands
  | arguments callee done => exact stands
  | _ => trivial

end Production

/-- The errors of productions that cost less than a bound are accounted for. -/
def Frame.AccountsBelow (frame : Frame) (bound : Nat) : Prop :=
  ∀ depth production position, production.StandsAt frame depth position →
    production.cost frame position < bound →
      Accounted frame position (frame.production depth production)

namespace Frame.AccountsBelow

variable {frame : Frame} {bound : Nat} (below : frame.AccountsBelow bound) (depth : Nat)
  {start : Nat}

include below

theorem expression (floor : Precedence) (enough : 3 * (frame.tokens.size - start) + 2 < bound) :
    Accounted frame start (frame.production depth (.expression floor)) :=
  below depth (.expression floor) start trivial enough

theorem tail (left : Value) (floor : Precedence)
    (enough : 3 * (frame.tokens.size - start) + 1 < bound) :
    Accounted frame start (frame.production depth (.tail left floor)) :=
  below depth (.tail left floor) start trivial enough

theorem unary {token : String} (reads : frame.Reads start token)
    (enough : 3 * (frame.tokens.size - start) + 1 < bound) :
    Accounted frame start (frame.production depth (.unary token)) :=
  below depth (.unary token) start reads enough

theorem chain {token : String} (reads : frame.Reads start token) (floor : Precedence)
    (enough : 3 * (frame.tokens.size - start) + 1 < bound) :
    Accounted frame start (do
      let left ← frame.production depth (.unary token)
      frame.production depth (.tail left floor)) := by
  have proceeds := (frame.production_supports bound).unary depth start token reads.inside enough
  refine .bind proceeds (below.unary depth reads enough) ?_
  intro left reached _ behind
  exact below.tail depth left floor (by omega)

theorem operand (enough : 3 * (frame.tokens.size - start) + 1 < bound) :
    Accounted frame start (Production.operand frame frame.production depth) := by
  apply Accounted.peek
  cases here : frame.tokens[start]? with
  | none => exact .reject (here ▸ frame.pointsAt_current start)
  | some token => exact below.unary depth (.token here) enough

omit below in
/-- A name without a value is behind the cursor, be it called or not. -/
theorem name {token : String} (reads : frame.Reads start token) :
    Accounted frame start (Production.name frame token) := by
  have points := reads.points (Nat.le_succ start)
  apply Accounted.advance
  cases found : Grammar.lookup frame.bindings token with
  | ok value => exact .pure value
  | error error =>
      cases Grammar.eq_of_lookup_error found
      apply Accounted.peek
      split
      · exact .reject points
      · apply Accounted.fail
        rintro _ ⟨⟩
        exact points

theorem callOf {name : String} {callee : Callable}
    (registered : frame.registry.function? name = some callee) (inside : start < frame.tokens.size)
    (enough : 3 * (frame.tokens.size - start) < bound) :
    Accounted frame start (Production.callOf frame frame.production depth callee) := by
  apply Accounted.advance
  apply Accounted.expect
  exact below depth (.arguments callee []) (start + 2) ⟨name, registered⟩
    (by simp only [cost]; omega)

theorem factor {token : String} (reads : frame.Reads start token)
    (enough : 3 * (frame.tokens.size - start) < bound) :
    Accounted frame start (Production.factor frame frame.production depth token) := by
  have inside := reads.inside
  unfold Production.factor
  split
  · rename_i parenthesis
    have proceeds := (frame.production_supports bound).expression depth (start + 1) 0 (by omega)
    apply Accounted.advance
    refine .bind proceeds (below.expression depth 0 (by omega)) ?_
    intro value reached _ _
    exact .expect (.pure value)
  split
  · exact .advance (.pure _)
  split
  · exact .advance (.pure _)
  split
  · exact .advance (.pure _)
  split
  · exact .advance (below depth (.elements []) (start + 1) trivial (by simp only [cost]; omega))
  split
  · rename_i brace
    subst brace
    have begins : frame.EntryBegins depth (start + 1) := ⟨start, [], reads, .none⟩
    exact .advance (below depth (.entries []) (start + 1) begins (by simp only [cost]; omega))
  split
  · exact .advance (.pure _)
  cases callable : frame.registry.function? token with
  | some callee => exact below.callOf depth callable inside enough
  | none =>
      change Accounted frame start
        (if (frame.registry.operator? token).isSome || Grammar.isPunctuation token then
          Parse.fail (.invalidExpression (some token))
        else Production.name frame token)
      split
      · exact .reject (reads.points (Nat.le_refl start))
      · exact name reads

theorem unaryOrFactor {token : String} (reads : frame.Reads start token)
    (enough : 3 * (frame.tokens.size - start) < bound) :
    Accounted frame start (Production.unaryOrFactor frame frame.production depth token) := by
  have inside := reads.inside
  unfold Production.unaryOrFactor
  cases registered : frame.registry.unaryOperator? token with
  | none => exact below.factor depth reads enough
  | some operator =>
      have proceeds := Proceeds.nested depth fun inner =>
        (frame.production_supports bound).operand inner (start + 1) (by omega)
      apply Accounted.advance
      refine .bind proceeds (.nested depth (below.operand (depth + 1) (by omega))) ?_
      intro value reached _ _
      exact .liftError (.unary registered value)

theorem climb (left : Value) (floor : Precedence)
    (enough : 3 * (frame.tokens.size - start) < bound) :
    Accounted frame start (Production.climb frame frame.production depth left floor) := by
  apply Accounted.peek
  cases here : frame.tokens[start]? with
  | none => exact .pure left
  | some symbol =>
      have inside := Frame.lt_size here
      cases registered : frame.registry.operator? symbol with
      | none =>
          simp only [registered]
          exact .pure left
      | some operator =>
          simp only [registered]
          split
          · exact .pure left
          · have proceeds := (frame.production_supports bound).expression depth (start + 1)
              (frame.registry.precedence symbol).next (by omega)
            apply Accounted.advance
            refine .bind proceeds (below.expression depth _ (by omega)) ?_
            intro right reached _ _
            refine .bind (.liftError (operator left right) (Nat.le_refl reached))
              (.liftError (.binary registered left right)) ?_
            intro folded behind _ _
            exact below.tail depth folded floor (by omega)

theorem restOfArray (done : List Value) (enough : 3 * (frame.tokens.size - start) + 2 < bound) :
    Accounted frame start (Production.restOfArray frame frame.production depth done) := by
  apply Accounted.peek
  split
  · exact .advance (.pure _)
  · have proceeds := (frame.production_supports bound).expression depth start 0 enough
    refine .bind proceeds (below.expression depth 0 enough) ?_
    intro item reached _ behind
    have again : ∀ position, start + 1 ≤ position → start < frame.tokens.size →
        Accounted frame position (frame.production depth (.elements (item :: done))) :=
      fun position later inside => below depth _ position trivial (by simp only [cost]; omega)
    apply Accounted.peek
    split
    · rename_i comma
      have inside := Frame.lt_size comma
      apply Accounted.advance
      apply Accounted.peek
      split
      · rename_i closed
        exact .reject (closed ▸ frame.pointsAt_current (reached + 1))
      · exact again (reached + 1) (by omega) (by omega)
    · rename_i closed
      have inside := Frame.lt_size closed
      exact again reached behind (by omega)
    · exact .reject (frame.pointsAt_current reached)

theorem entry (done : Table Value) {key : String} (begins : frame.EntryBegins depth start)
    (here : frame.tokens[start]? = some key)
    (enough : 3 * (frame.tokens.size - start) + 2 < bound) :
    Accounted frame start (Production.entry frame frame.production depth done key) := by
  have reads : frame.Reads start key := .token here
  cases marked : Grammar.spreadOperand? key with
  | some token =>
      -- The operand is no token of the text; all that is known of it is which entry spreads it.
      obtain ⟨opened, written, brace, before⟩ := begins
      have operand : frame.Reads start token := .operand brace before here marked
      have proceeds := Proceeds.nested depth fun inner =>
        (frame.production_supports bound).chain inner start token 0 reads.inside (by omega)
      simp only [Production.entry, marked]
      refine .bind proceeds (.nested depth (below.chain (depth + 1) operand 0 (by omega))) ?_
      intro value reached _ behind
      split
      · exact .pure _
      · exact .rejectObject (reads.points (by omega))
  | none =>
      simp only [Production.entry, marked]
      split
      · exact .rejectObject (reads.points (Nat.le_refl start))
      · apply Accounted.advance
        apply Accounted.peek
        split
        · exact .rejectObject (frame.pointsAt_current (start + 1))
        · rename_i colon
          apply Accounted.advance
          apply Accounted.peek
          split
          · exact .rejectObject (frame.pointsAt_current (start + 1 + 1))
          · have proceeds :=
              (frame.production_supports bound).expression depth (start + 1 + 1) 0 (by omega)
            refine .bind proceeds (below.expression depth 0 (by omega)) ?_
            intro value reached _ _
            exact .pure _

theorem restOfObject (done : Table Value) (begins : frame.EntryBegins depth start)
    (enough : 3 * (frame.tokens.size - start) + 2 < bound) :
    Accounted frame start (Production.restOfObject frame frame.production depth done) := by
  apply Accounted.peek
  cases here : frame.tokens[start]? with
  | none => exact .rejectObject (here ▸ frame.pointsAt_current start)
  | some key =>
      have inside := Frame.lt_size here
      have proceeds := (frame.production_supports bound).entry depth start done here enough
      refine .bind proceeds (below.entry depth done begins here enough) ?_
      intro written reached read behind
      obtain ⟨entry, entries, found, writes⟩ := Frame.entryAt_of_entry here read
      apply Accounted.peek
      split
      · exact .advance (.pure _)
      · rename_i comma
        apply Accounted.advance
        exact below depth (.entries written) (reached + 1) (begins.next found writes comma)
          (by simp only [cost]; omega)
      · exact .rejectObject (frame.pointsAt_current reached)

theorem restOfArguments {callee : Callable} (done : List Value)
    (registered : ∃ name, frame.registry.function? name = some callee)
    (enough : 3 * (frame.tokens.size - start) + 2 < bound) :
    Accounted frame start
      (Production.restOfArguments frame frame.production depth callee done) := by
  apply Accounted.peek
  split
  · intro error cursor failed
    obtain ⟨name, registered⟩ := registered
    exact .inl (.function registered (start + 1) done.reverse (congrArg Prod.fst failed))
  · have proceeds := (frame.production_supports bound).expression depth start 0 enough
    refine .bind proceeds (below.expression depth 0 enough) ?_
    intro argument reached read behind
    have inside : start < frame.tokens.size := by
      have within := proceeds.inside
      rw [read] at within
      omega
    -- An argument may follow without a comma; what has been read makes the rest cost less.
    have again : ∀ position, start + 1 ≤ position → Accounted frame position
        (frame.production depth (.arguments callee (argument :: done))) :=
      fun position later => below depth _ position registered (by simp only [cost]; omega)
    apply Accounted.peek
    split
    · apply Accounted.advance
      apply Accounted.peek
      split
      · rename_i closed
        exact .reject (closed ▸ frame.pointsAt_current (reached + 1))
      · exact again (reached + 1) (by omega)
    · exact again reached behind

theorem step (production : Production) (stands : production.StandsAt frame depth start)
    (enough : production.cost frame start = bound) :
    Accounted frame start (Production.step frame frame.production depth production) := by
  subst enough
  cases production with
  | expression floor =>
      have proceeds := (frame.production_supports (3 * (frame.tokens.size - start) + 2)).operand
        (depth + 1) start (Nat.lt_succ_self _)
      unfold Production.step
      apply Accounted.nested depth
      refine .bind proceeds (below.operand (depth + 1) (by simp only [cost]; omega)) ?_
      intro left reached _ behind
      exact below.tail (depth + 1) left floor (by simp only [cost]; omega)
  | unary token => exact below.unaryOrFactor depth stands (by simp only [cost]; omega)
  | tail left floor => exact below.climb depth left floor (by simp only [cost]; omega)
  | elements done => exact below.restOfArray depth done (by simp only [cost]; omega)
  | entries done => exact below.restOfObject depth done stands (by simp only [cost]; omega)
  | arguments callee done =>
      exact below.restOfArguments depth done stands (by simp only [cost]; omega)

end Frame.AccountsBelow

namespace Frame

/-- The errors of a production are accounted for, by induction on what it costs. -/
theorem accounted_production (frame : Frame) (depth : Nat) (production : Production) (start : Nat)
    (stands : production.StandsAt frame depth start) :
    Accounted frame start (frame.production depth production) := by
  induction cost : production.cost frame start using Nat.strong_induction_on
    generalizing depth production start with
  | h bound ih =>
      have below : frame.AccountsBelow bound := fun depth production position stands less =>
        ih _ less depth production position stands rfl
      have same := frame.production_eq_step depth stands.readable
      intro error cursor failed
      exact below.step depth production stands cost error cursor (same.symm.trans failed)

theorem formula_inside (frame : Frame) : (frame.formula 0).2 ≤ frame.tokens.size := by
  have formula : Proceeds frame frame.tokens frame.invoke 0 0 frame.formula frame.formula := by
    apply (frame.expression_proceeds frame.tokens frame.invoke 0 0 0).bind
    intro value reached _ _ _
    apply Proceeds.peek
    split
    · exact .pure value (Nat.zero_le reached)
    · exact .fail _
  exact Nat.le_trans formula.inside (Nat.max_le.mpr ⟨Nat.zero_le _, Nat.le_refl _⟩)

theorem accounted_formula (frame : Frame) : Accounted frame 0 frame.formula := by
  have proceeds := frame.expression_proceeds frame.tokens frame.invoke 0 0 0
  refine .bind proceeds (frame.accounted_production 0 (.expression 0) 0 trivial) ?_
  intro value reached _ _
  apply Accounted.peek
  cases trailing : frame.tokens[reached]? with
  | none => exact .pure value
  | some token => exact .reject (trailing ▸ frame.pointsAt_current reached)

end Frame

end Reckon
