import Mathlib.Data.List.TakeWhile
import Reckon.Proofs.Formula.Agreement
import Reckon.Proofs.Grammar.Limit
import Reckon.Standard.Operators

/-!
Operators between operands are grouped by their precedences: top down, by the operator that is
applied last.
-/

namespace Reckon

/-- The last precedence, above which there is none. -/
def Precedence.last : Precedence := 0xffffffff

namespace Precedence

@[simp]
theorem toNat_last : last.toNat = 4294967295 := rfl

theorem toNat_le_last (precedence : Precedence) : precedence.toNat ≤ last.toNat := by
  have bounded : precedence.toNat < 4294967296 := precedence.toNat_lt
  rw [toNat_last]
  omega

theorem toNat_next (precedence : Precedence) :
    precedence.next.toNat = min (precedence.toNat + 1) last.toNat := by
  have bounded := precedence.toNat_le_last
  unfold next
  split
  · rename_i same
    subst same
    rfl
  · rename_i different
    have below : precedence.toNat ≠ 0xffffffff := fun same =>
      different (UInt32.toNat_inj.mp same)
    rw [toNat_last] at bounded ⊢
    rw [UInt32.toNat_add]
    change (precedence.toNat + 1) % 4294967296 = _
    omega

theorem lt_next_iff (first second : Precedence) :
    first < second.next ↔ first.toNat ≤ second.toNat ∧ first.toNat < last.toNat := by
  rw [UInt32.lt_iff_toNat_lt, toNat_next]
  omega

theorem next_le_iff (first second : Precedence) :
    first.next ≤ second ↔ min (first.toNat + 1) last.toNat ≤ second.toNat := by
  rw [UInt32.le_iff_toNat_le, toNat_next]

end Precedence

namespace Formula

/-- The place of the operator that is applied last among operators of the given precedences: the
rightmost one of the least precedence, and among operators of the last precedence the leftmost. -/
def root (precedences : List Precedence) : Nat :=
  match precedences.min? with
  | none => 0
  | some least =>
      if least = Precedence.last then 0
      else precedences.length - 1 - precedences.reverse.idxOf least

theorem root_lt {precedences : List Precedence} (nonempty : precedences ≠ []) :
    root precedences < precedences.length := by
  have positive : 0 < precedences.length := List.length_pos_iff.mpr nonempty
  unfold root
  split
  · exact positive
  · split <;> omega

section

variable (precedence : String → Precedence)

def lastApplied (links : List (String × Formula)) : Nat :=
  root (links.map fun link => precedence link.1)

theorem lastApplied_lt {links : List (String × Formula)} (nonempty : links ≠ []) :
    lastApplied precedence links < links.length := by
  have mapped : links.map (fun link => precedence link.1) ≠ [] := by simpa using nonempty
  simpa [lastApplied] using root_lt mapped

/-- The tree of an operand and the operators after it, each with its right operand: what stands
before the operator applied last is its left operand, and what stands after it its right one. -/
def grouped (first : Formula) (links : List (String × Formula)) : Formula :=
  if nonempty : links = [] then first
  else
    let place := lastApplied precedence links
    have inside : place < links.length := lastApplied_lt precedence nonempty
    .binary links[place].1 (grouped first (links.take place))
      (grouped links[place].2 (links.drop (place + 1)))
termination_by links.length

variable {precedence} {before after : List (String × Formula)} {symbol : String}

/-- An operator is the one to be applied last between others: those before it would stop at it, and
those after it belong to its right operand. -/
structure Splits (precedence : String → Precedence) (before : List (String × Formula))
    (symbol : String) (after : List (String × Formula)) : Prop where
  before : ∀ link ∈ before, precedence symbol < (precedence link.1).next
  after : ∀ link ∈ after, (precedence symbol).next ≤ precedence link.1

theorem Splits.least (splits : Splits precedence before symbol after) (operand : Formula) :
    ((before ++ (symbol, operand) :: after).map fun link => precedence link.1).min? =
      some (precedence symbol) := by
  rw [List.min?_eq_some_iff]
  refine ⟨by simp, ?_⟩
  intro other member
  simp only [List.map_append, List.map_cons, List.mem_append, List.mem_map, List.mem_cons] at member
  rw [UInt32.le_iff_toNat_le]
  rcases member with ⟨link, member, rfl⟩ | rfl | ⟨link, member, rfl⟩
  · exact ((Precedence.lt_next_iff _ _).mp (splits.before link member)).1
  · exact Nat.le_refl _
  · have above := (Precedence.next_le_iff _ _).mp (splits.after link member)
    have bounded := (precedence symbol).toNat_le_last
    omega

theorem Splits.lastApplied_eq (splits : Splits precedence before symbol after)
    (operand : Formula) :
    lastApplied precedence (before ++ (symbol, operand) :: after) = before.length := by
  unfold lastApplied root
  rw [splits.least]
  by_cases top : precedence symbol = Precedence.last
  · have leftmost : before = [] := by
      refine List.eq_nil_iff_forall_not_mem.mpr fun link member => ?_
      have := ((Precedence.lt_next_iff _ _).mp (splits.before link member)).2
      rw [top] at this
      omega
    simp [top, leftmost]
  · have unlike : precedence symbol ∉ after.reverse.map fun link => precedence link.1 := by
      intro member
      simp only [List.mem_map, List.mem_reverse] at member
      obtain ⟨link, member, same⟩ := member
      have above := (Precedence.next_le_iff _ _).mp (splits.after link member)
      rw [same] at above
      have bounded := (precedence symbol).toNat_le_last
      have below : (precedence symbol).toNat ≠ Precedence.last.toNat := fun equal =>
        top (UInt32.toNat_inj.mp equal)
      omega
    simp only [top, if_false]
    have behind : ((before ++ (symbol, operand) :: after).map fun link =>
        precedence link.1).reverse.idxOf (precedence symbol) = after.length := by
      rw [← List.map_reverse, List.reverse_append, List.reverse_cons, List.append_assoc,
        List.map_append, List.idxOf_append, if_neg unlike]
      simp
    rw [behind]
    simp only [List.length_map, List.length_append, List.length_cons]
    omega

theorem Splits.grouped_eq (splits : Splits precedence before symbol after)
    (first operand : Formula) :
    grouped precedence first (before ++ (symbol, operand) :: after) =
      .binary symbol (grouped precedence first before) (grouped precedence operand after) := by
  rw [grouped, dif_neg (by simp)]
  simp [splits.lastApplied_eq operand]

theorem grouped_nil (first : Formula) : grouped precedence first [] = first := by
  rw [grouped, dif_pos rfl]

theorem exists_splits (precedence : String → Precedence) (link : String × Formula)
    (rest : List (String × Formula)) :
    ∃ before symbol operand after, link :: rest = before ++ (symbol, operand) :: after ∧
      Splits precedence before symbol after := by
  induction rest generalizing link with
  | nil => exact ⟨[], link.1, link.2, [], rfl, ⟨by simp, by simp⟩⟩
  | cons next rest ih =>
      obtain ⟨before, symbol, operand, after, equal, splits⟩ := ih next
      by_cases first : precedence symbol < (precedence link.1).next
      · refine ⟨link :: before, symbol, operand, after, by simp [equal], ?_, splits.after⟩
        intro other member
        rcases List.mem_cons.mp member with rfl | member
        · exact first
        · exact splits.before other member
      · refine ⟨[], link.1, link.2, next :: rest, rfl, by simp, ?_⟩
        intro other member
        rw [equal] at member
        rw [Precedence.lt_next_iff] at first
        rw [Precedence.next_le_iff]
        simp only [List.mem_append, List.mem_cons] at member
        have bounded := (precedence symbol).toNat_le_last
        rcases member with member | rfl | member
        · have := (Precedence.lt_next_iff _ _).mp (splits.before other member)
          omega
        · change _ ≤ (precedence symbol).toNat
          omega
        · have := (Precedence.next_le_iff _ _).mp (splits.after other member)
          omega

def tighter (precedence : String → Precedence) (floor : Precedence) (link : String × Formula) :
    Bool :=
  floor ≤ precedence link.1

theorem takeWhile_before {α : Type} {test : α → Bool} {pivot : α} (stops : test pivot = false)
    (front back : List α) : (front ++ pivot :: back).takeWhile test = front.takeWhile test := by
  induction front with
  | nil => simp [stops]
  | cons item front ih => cases passed : test item <;> simp [passed, ih]

theorem dropWhile_before {α : Type} {test : α → Bool} {pivot : α} (stops : test pivot = false)
    (front back : List α) :
    (front ++ pivot :: back).dropWhile test = front.dropWhile test ++ pivot :: back := by
  induction front with
  | nil => simp [stops]
  | cons item front ih => cases passed : test item <;> simp [passed, ih]

/-- Climbing: the first operator takes up as its right operand what binds tighter, and the rest
goes on from there. -/
theorem grouped_cons (first operand : Formula) (symbol : String) (rest : List (String × Formula)) :
    grouped precedence first ((symbol, operand) :: rest) =
      grouped precedence
        (.binary symbol first
          (grouped precedence operand
            (rest.takeWhile (tighter precedence (precedence symbol).next))))
        (rest.dropWhile (tighter precedence (precedence symbol).next)) := by
  induction count : rest.length using Nat.strongRecOn generalizing rest with
  | ind bound ih =>
    obtain ⟨before, pivot, last, after, equal, splits⟩ :=
      exists_splits precedence (symbol, operand) rest
    rw [equal, splits.grouped_eq]
    rcases before with _ | ⟨head, middle⟩
    · simp only [List.nil_append, List.cons.injEq, Prod.mk.injEq] at equal
      obtain ⟨⟨rfl, rfl⟩, rfl⟩ := equal
      have all : ∀ link ∈ rest, tighter precedence (precedence symbol).next link = true :=
        fun link member => decide_eq_true (splits.after link member)
      rw [List.takeWhile_eq_self_iff.mpr all, List.dropWhile_eq_nil_iff.mpr all, grouped_nil,
        grouped_nil]
    · simp only [List.cons_append, List.cons.injEq] at equal
      obtain ⟨rfl, rfl⟩ := equal
      have stops : tighter precedence (precedence symbol).next (pivot, last) = false := by
        have := splits.before (symbol, operand) (by simp)
        simpa [tighter] using this
      have inner : Splits precedence
          (middle.dropWhile (tighter precedence (precedence symbol).next))
          pivot after :=
        ⟨fun link member => splits.before link
          (List.mem_cons_of_mem _ (List.dropWhile_subset _ member)), splits.after⟩
      have shorter : middle.length < bound := by
        simp only [List.length_append, List.length_cons] at count
        omega
      rw [takeWhile_before stops, dropWhile_before stops, inner.grouped_eq,
        ih middle.length shorter middle rfl]

end

section

variable (registry : Registry) (tokens : Array String)

/-- From one position to another, where no operator follows, there are binary operators and behind
each a unary factor. -/
inductive Links : (start : Nat) → List (String × Formula) → (stop : Nat) → Prop
  | nil {stop : Nat}
      (ends : ∀ symbol, tokens[stop]? = some symbol → registry.operator? symbol = none) :
      Links stop [] stop
  | cons {start stop : Nat} {links : List (String × Formula)} {operand : Span Formula (start + 2)}
      (inside : start + 1 < tokens.size)
      (registered : (registry.operator? tokens[start]).isSome)
      (read : readUnary registry tokens tokens[start + 1] (start + 1) inside = .ok operand)
      (rest : Links operand.stop links stop) :
      Links start ((tokens[start], operand.part) :: links) stop

/-- From one position to another there are unary factors with binary operators between them. -/
inductive Chain (start : Nat) : Formula → List (String × Formula) → (stop : Nat) → Prop
  | intro {stop : Nat} {links : List (String × Formula)} {first : Span Formula (start + 1)}
      (inside : start < tokens.size)
      (read : readUnary registry tokens tokens[start] start inside = .ok first)
      (rest : Links registry tokens first.stop links stop) : Chain start first.part links stop

variable {registry tokens}

theorem dropWhile_dropWhile {α : Type} {narrow wide : α → Bool}
    (includes : ∀ item, narrow item = true → wide item = true) (items : List α) :
    (items.dropWhile narrow).dropWhile wide = items.dropWhile wide := by
  induction items with
  | nil => rfl
  | cons item rest ih =>
      cases passed : narrow item
      · simp [passed]
      · simp [passed, includes item passed, ih]

theorem takeWhile_takeWhile {α : Type} {narrow wide : α → Bool}
    (includes : ∀ item, narrow item = true → wide item = true) (items : List α) :
    (items.takeWhile wide).takeWhile narrow = items.takeWhile narrow := by
  induction items with
  | nil => rfl
  | cons item rest ih =>
      cases passed : narrow item
      · cases kept : wide item <;> simp [passed, kept]
      · simp [passed, includes item passed, ih]

theorem dropWhile_takeWhile {α : Type} {narrow wide : α → Bool}
    (includes : ∀ item, narrow item = true → wide item = true) (items : List α) :
    (items.takeWhile wide).dropWhile narrow = (items.dropWhile narrow).takeWhile wide := by
  induction items with
  | nil => rfl
  | cons item rest ih =>
      cases passed : narrow item
      · cases kept : wide item <;> simp [passed, kept]
      · simp [passed, includes item passed, ih]

theorem tighter_of_next (precedence : String → Precedence) {low high : Precedence}
    (above : low ≤ high) (link : String × Formula)
    (tight : tighter precedence high.next link = true) : tighter precedence low link = true := by
  simp only [tighter, decide_eq_true_eq] at tight ⊢
  rw [Precedence.next_le_iff] at tight
  rw [UInt32.le_iff_toNat_le] at above ⊢
  have := (precedence link.1).toNat_le_last
  have := high.toNat_le_last
  omega

theorem readTail_of_loose {start : Nat} {floor : Precedence}
    (loose : ∀ symbol, tokens[start]? = some symbol →
      registry.operator? symbol = none ∨ registry.precedence symbol < floor) (left : Formula) :
    readTail registry tokens left floor start = .ok ⟨left, start, Nat.le_refl start⟩ := by
  rw [readTail]
  by_cases inside : start < tokens.size
  · rcases loose tokens[start] (by simp [inside]) with unknown | below
    · simp [inside, unknown]
    · simp [inside, below]
  · simp [inside]

theorem readTail_of_tight {start : Nat} {floor : Precedence} {left : Formula}
    {right : Span Formula (start + 2)} {whole : Span Formula right.stop}
    (inside : start < tokens.size) (registered : (registry.operator? tokens[start]).isSome)
    (tight : ¬registry.precedence tokens[start] < floor)
    (operand : readExpression registry tokens (registry.precedence tokens[start]).next (start + 1) =
      .ok right)
    (rest : readTail registry tokens (.binary tokens[start] left right.part) floor right.stop =
      .ok whole) :
    readTail registry tokens left floor start =
      .ok (whole.weaken (by have := right.forward; omega)) := by
  rw [readTail]
  have known : registry.operator? tokens[start] ≠ none := Option.isSome_iff_ne_none.mp registered
  simp [inside, known, tight, operand, rest]

theorem readExpression_of_unary {start : Nat} {floor : Precedence}
    {first : Span Formula (start + 1)} {whole : Span Formula first.stop}
    (inside : start < tokens.size)
    (operand : readUnary registry tokens tokens[start] start inside = .ok first)
    (rest : readTail registry tokens first.part floor first.stop = .ok whole) :
    readExpression registry tokens floor start =
      .ok (whole.weaken (by have := first.forward; omega)) := by
  rw [readExpression]
  simp [inside, operand, rest]

/-- The tail of an expression takes up the operators that bind tight enough and groups them. -/
theorem readTail_of_links {links : List (String × Formula)} {start stop : Nat}
    (chained : Links registry tokens start links stop) (left : Formula) (floor : Precedence) :
    ∃ span, readTail registry tokens left floor start = .ok span ∧
      span.part = grouped registry.precedence left
        (links.takeWhile (tighter registry.precedence floor)) ∧
      Links registry tokens span.stop
        (links.dropWhile (tighter registry.precedence floor)) stop := by
  induction count : links.length using Nat.strongRecOn generalizing links start left floor with
  | ind bound ih =>
    cases chained with
    | nil ends =>
        exact ⟨_, readTail_of_loose (fun symbol found => .inl (ends symbol found)) left,
          by simp [grouped_nil], .nil ends⟩
    | @cons _ _ rest operand inside registered read chained =>
        have here : start < tokens.size := by omega
        by_cases loose : registry.precedence tokens[start] < floor
        · have skipped : tighter registry.precedence floor
              (tokens[start], operand.part) = false := by
            simpa [tighter] using loose
          refine ⟨_, readTail_of_loose (fun symbol found => ?_) left, ?_, ?_⟩
          · have same : tokens[start] = symbol := by simpa [here] using found
            exact .inr (same ▸ loose)
          · simp [skipped, grouped_nil]
          · simpa [skipped] using Links.cons inside registered read chained
        · have below : rest.length < bound := by
            simp only [List.length_cons] at count
            omega
          have taken : tighter registry.precedence floor (tokens[start], operand.part) = true := by
            simpa [tighter] using loose
          have above : floor ≤ registry.precedence tokens[start] := by simpa using loose
          have includes := tighter_of_next registry.precedence above
          -- the right operand takes up what binds tighter than this operator, the loop the rest
          obtain ⟨inner, innerRead, innerPart, innerRest⟩ := ih rest.length below chained
            operand.part (registry.precedence tokens[start]).next rfl
          have right := readExpression_of_unary inside read innerRead
          obtain ⟨whole, wholeRead, wholePart, wholeRest⟩ := ih _
            (Nat.lt_of_le_of_lt (List.length_dropWhile_le _ rest) below) innerRest
            (.binary tokens[start] left inner.part) floor rfl
          refine ⟨_, readTail_of_tight here registered loose right wholeRead, ?_, ?_⟩
          · simp only [List.takeWhile_cons, taken, if_true]
            rw [grouped_cons, takeWhile_takeWhile includes, dropWhile_takeWhile includes,
              ← innerPart]
            exact wholePart
          · rw [dropWhile_dropWhile includes] at wholeRest
            simp only [List.dropWhile_cons, taken, if_true]
            exact wholeRest

theorem Chain.readExpression {start stop : Nat} {first : Formula}
    {links : List (String × Formula)} (chain : Chain registry tokens start first links stop) :
    ∃ forward, Formula.readExpression registry tokens 0 start =
      .ok ⟨grouped registry.precedence first links, stop, forward⟩ := by
  obtain ⟨inside, read, rest⟩ := chain
  rename_i operand
  obtain ⟨span, tail, part, ends⟩ := readTail_of_links rest operand.part 0
  have all : ∀ link ∈ links, tighter registry.precedence 0 link = true := fun link _ => by
    simp [tighter]
  rw [List.takeWhile_eq_self_iff.mpr all] at part
  rw [List.dropWhile_eq_nil_iff.mpr all] at ends
  have whole := readExpression_of_unary inside read tail
  cases ends with
  | nil ends => exact ⟨_, by rw [whole, ← part]; rfl⟩

theorem readUnary_of_literal {token : String} {start : Nat} {value : Value}
    (inside : start < tokens.size) (literal : role registry token = .literal value) :
    readUnary registry tokens token start inside =
      .ok ⟨.literal value, start + 1, Nat.le_refl (start + 1)⟩ := by
  rw [readUnary]
  simp [literal]

theorem readUnary_of_unary {token : String} {start : Nat} {inside : start < tokens.size}
    {span : Span Formula (start + 1)} (registered : (registry.unaryOperator? token).isSome)
    (read : readUnary registry tokens token start inside = .ok span) :
    ∃ (more : start + 1 < tokens.size) (inner : Span Formula (start + 2)),
      readUnary registry tokens tokens[start + 1] (start + 1) more = .ok inner ∧
        span.part = .unary token inner.part ∧ span.stop = inner.stop := by
  have unary : role registry token = .unaryOperator := by simp [role, registered]
  rw [readUnary] at read
  simp only [unary] at read
  by_cases more : start + 1 < tokens.size
  · rw [dif_pos more] at read
    rcases operand : readUnary registry tokens tokens[start + 1] (start + 1) more with
      rejection | inner
    · simp [operand] at read
    · simp only [operand, Outcome.ok_bind, Outcome.pure_eq, Except.ok.injEq] at read
      subst read
      exact ⟨more, inner, operand, rfl, rfl⟩
  · simp [more, Reading.reject] at read

end

end Formula

open Formula Parse

section

variable {frame : Frame} {start stop : Nat} {first : Formula} {links : List (String × Formula)}
  (chain : Chain frame.registry frame.tokens start first links stop) (depth : Nat)

include chain

theorem Frame.ended_expression_of_chain (unlimited : frame.limit = none) :
    ended (frame.expression depth 0) start = (do
      let value ← (grouped frame.registry.precedence first links).evaluate frame.setting
      return (value, stop)) := by
  obtain ⟨forward, read⟩ := chain.readExpression
  have whole := (agreesUpTo unlimited (Production.fuelFor frame.tokens.size)).expression depth 0
    start (by unfold Production.fuelFor; omega)
  rw [read] at whole
  exact whole

/-- A chain of operands has the value of its tree, unless it is nested too deep. -/
theorem Frame.ended_expression_or_tooDeep :
    ended (frame.expression depth 0) start = (do
        let value ← (grouped frame.registry.precedence first links).evaluate frame.setting
        return (value, stop)) ∨
      ∃ limit, frame.limit = some limit ∧
        ended (frame.expression depth 0) start = .error (.raised (.nestingTooDeep limit)) := by
  rcases limited : frame.limit with _ | limit
  · exact .inl (Frame.ended_expression_of_chain chain depth limited)
  · have wide : Chain (frame.vary none frame.invoke).registry
        (frame.vary none frame.invoke).tokens start first links stop := chain
    have whole := Frame.ended_expression_of_chain wide depth rfl
    have looser : Looser limit none := trivial
    rcases Frame.expression_eq_or_tooDeep limited looser depth 0 start with same | deep
    · left
      rw [← show (frame.vary none frame.invoke).setting = frame.setting from rfl]
      exact (congrArg (fun found => ended (fun _ => found) start) same).trans whole
    · right
      refine ⟨limit, rfl, ?_⟩
      unfold ended
      rcases found : frame.expression depth 0 start with ⟨result, reached⟩
      rw [found] at deep
      subst deep
      rfl

end

theorem Frame.outcome_or_tooDeep {frame : Frame} {first : Formula}
    {links : List (String × Formula)}
    (chain : Chain frame.registry frame.tokens 0 first links frame.tokens.size) :
    frame.outcome = (grouped frame.registry.precedence first links).evaluate frame.setting ∨
      ∃ limit, frame.limit = some limit ∧
        frame.outcome = Outcome.raise (.nestingTooDeep limit) := by
  rw [Frame.outcome_eq_bind]
  rcases Frame.ended_expression_or_tooDeep chain 0 with whole | ⟨limit, limited, deep⟩
  · left
    rw [whole]
    simp
  · exact .inr ⟨limit, limited, by simp [deep, Outcome.raise]⟩

/-- An expression of operands with binary operators between them is evaluated as the tree that the
precedences give, wherever it stands; a symbol without a precedence has the least one.  A prefix
operator applies to the unary factor behind it and to nothing else. -/
theorem Engine.expression_of_chain (engine : Engine) (levels : Nat) (site : List Nat)
    (tokens : Array String) (bindings : Table Value) {start stop : Nat} {first : Formula}
    {links : List (String × Formula)}
    (chain : Chain engine.registry tokens start first links stop) (depth : Nat) :
    let frame := engine.frame levels site tokens bindings
    let precedence := fun symbol => (Table.get? engine.registry.precedences symbol).getD 0
    let value := (grouped precedence first links).evaluate frame.setting
    (ended (frame.expression depth 0) start = (value >>= fun found => .ok (found, stop)) ∨
        ∃ limit, engine.limit = some limit ∧
          ended (frame.expression depth 0) start = .error (.raised (.nestingTooDeep limit))) ∧
      (start = 0 → stop = tokens.size →
        frame.outcome = value ∨ ∃ limit, engine.limit = some limit ∧
          frame.outcome = Outcome.raise (.nestingTooDeep limit)) ∧
      ∀ token place (inside : place < tokens.size) factor,
        readUnary engine.registry tokens token place inside = .ok factor →
        (engine.registry.unaryOperator? token).isSome →
        ∃ more inner, readUnary engine.registry tokens tokens[place + 1] (place + 1) more =
          .ok inner ∧ factor.part = .unary token inner.part ∧ factor.stop = inner.stop := by
  intro frame precedence value
  have inFrame : Chain frame.registry frame.tokens start first links stop := chain
  refine ⟨Frame.ended_expression_or_tooDeep inFrame depth, ?_, ?_⟩
  · rintro rfl rfl
    exact Frame.outcome_or_tooDeep inFrame
  · intro token place inside factor read registered
    exact readUnary_of_unary registered read

/-- In `true or false and false` the first operator is applied last. -/
theorem Engine.expression_of_chain_or_and :
    let engine := Engine.core.configure Standard.withOperators
    let tokens := #["true", "or", "false", "and", "false"]
    Chain engine.registry tokens 0 (.literal (.boolean true))
        [("or", .literal (.boolean false)), ("and", .literal (.boolean false))] tokens.size ∧
      (engine.frame 0 [] tokens []).outcome = .ok (.boolean true) := by
  intro engine tokens
  have roles : role engine.registry "true" = .literal (.boolean true) ∧
      role engine.registry "false" = .literal (.boolean false) := ⟨rfl, rfl⟩
  have yes : readUnary engine.registry tokens "true" 0 (by decide) = _ :=
    readUnary_of_literal (by decide) roles.1
  have no : ∀ place (inside : place < tokens.size),
      readUnary engine.registry tokens "false" place inside = _ :=
    fun place inside => readUnary_of_literal inside roles.2
  have chain : Chain engine.registry tokens 0 (.literal (.boolean true))
      [("or", .literal (.boolean false)), ("and", .literal (.boolean false))] tokens.size := by
    refine @Chain.intro _ _ 0 _ _ _ (by decide) yes ?_
    refine @Links.cons _ _ 1 _ _ _ (by decide) rfl (no 2 (by decide)) ?_
    refine @Links.cons _ _ 3 _ _ _ (by decide) rfl (no 4 (by decide)) (.nil ?_)
    intro symbol found
    simp [tokens] at found
  refine ⟨chain, ?_⟩
  rcases (engine.expression_of_chain 0 [] tokens [] chain 0).2.1 rfl rfl with
    whole | ⟨limit, limited, -⟩
  · have splits : Splits (fun symbol => (Table.get? engine.registry.precedences symbol).getD 0) []
        "or" [("and", .literal (.boolean false))] := by
      refine ⟨by simp, ?_⟩
      intro link member
      rw [List.mem_singleton.mp member]
      decide
    have tree := splits.grouped_eq (.literal (.boolean true)) (.literal (.boolean false))
    rw [List.nil_append] at tree
    rw [whole, tree, grouped_nil, grouped_cons]
    simp only [List.takeWhile_nil, List.dropWhile_nil, grouped_nil]
    rfl
  · cases limited

end Reckon
