import Reckon.Proofs.Engine.Objects
import Reckon.Proofs.Engine.Spacing
import Reckon.Proofs.Lexicon.Points

/-!
Paths behind the mark of a spread.  The mark takes the first name only; the names behind the point
are a token of their own, at which the object literal is refused.
-/

namespace Reckon

open Formula Lexeme Outcome Parse Production

namespace Grammar

theorem spreadOperand?_mark (token : String) : spreadOperand? ("..." ++ token) = some token := by
  simp [spreadOperand?, spreadOperand?.remove, spreadMark]

end Grammar

/-- Whether a token begins with a letter, a digit or an underscore. -/
def Lexeme.startsWord (token : String) : Bool :=
  token.toList.head?.any isWord

theorem Lexeme.ne_of_startsWord {token mark : String} (word : startsWord token = true)
    (other : startsWord mark = false) : token ≠ mark := by
  rintro rfl
  rw [word] at other
  cases other

theorem Lexeme.startsWord_of_isName {name : String} (named : isName name.toList = true) :
    startsWord name = true := by
  obtain ⟨first, more, equal, -, word⟩ := isName_iff.mp named
  simp [startsWord, equal, word first List.mem_cons_self]

theorem Lexeme.startsWord_joined {first : String} (names : List String)
    (named : isName first.toList = true) :
    startsWord (".".intercalate (first :: names)) = true := by
  obtain ⟨c, more, equal, -, word⟩ := isName_iff.mp named
  rw [startsWord, toList_joined, equal]
  simp [word c List.mem_cons_self]

namespace Formula

variable {registry : Registry} {first rest : String}

theorem opens_of_role {token : String} {kind : Role} (found : role registry token = kind)
    (opens : kind = .parenthesis ∨ kind = .array ∨ kind = .object) :
    token = "(" ∨ token = "[" ∨ token = "\x7b" := by
  rcases opens with rfl | rfl | rfl <;> unfold role at found <;> repeat' split at found
  all_goals cases found
  all_goals simp_all

theorem isSome_of_role {token : String} (kind : role registry token = .unaryOperator) :
    (registry.unaryOperator? token).isSome = true := by
  unfold role at kind
  repeat' split at kind
  all_goals cases kind
  assumption

section

variable {tokens : Array String} {start stop : Nat} {whole : Formula}
  (word : startsWord first = true) (unclaimed : registry.unaryOperator? first = none)

include word unclaimed

/-- A factor that starts with a word is this token, unless it is a call. -/
theorem Derives.stop_of_word (derived : Derives registry tokens (.unary first whole) start stop)
    (uncalled : tokens[start + 1]? ≠ some "(") : stop = start + 1 := by
  have plain : ¬(first = "(" ∨ first = "[" ∨ first = "\x7b") := by
    rintro (same | same | same) <;> exact ne_of_startsWord word (by decide) same
  cases derived with
  | unaryOperator kind =>
      have claimed := isSome_of_role kind
      rw [unclaimed] at claimed
      cases claimed
  | parentheses kind => exact absurd (opens_of_role kind (by simp)) plain
  | array kind => exact absurd (opens_of_role kind (by simp)) plain
  | object kind => exact absurd (opens_of_role kind (by simp)) plain
  | literal | path | name => rfl
  | call kind opened => exact absurd opened uncalled

variable (marked : tokens[start]? = some ("..." ++ first))
  (next : tokens[start + 1]? = some rest) (closed : tokens[start + 2]? = some "\x7d")
  (behind : startsWord rest = true) (refused : role registry "\x7d" = .refused)

include marked next closed behind refused

/-- Before a word that is no operator, or one before a brace, a spread entry ends. -/
theorem Derives.stop_of_spread {item : Entry}
    (derived : Derives registry tokens (.entry item) start stop) : stop = start + 1 := by
  cases derived with
  | keyed here plain =>
      cases Option.some.inj (here.symm.trans marked)
      rw [Grammar.spreadOperand?_mark] at plain
      cases plain
  | @spread _ token _ _ _ reached _ here spread leading tail =>
      cases Option.some.inj (here.symm.trans marked)
      rw [Grammar.spreadOperand?_mark] at spread
      cases spread
      have uncalled : tokens[start + 1]? ≠ some "(" := by
        rw [next]
        exact fun same => ne_of_startsWord behind (by decide) (Option.some.inj same)
      obtain rfl := leading.stop_of_word word unclaimed uncalled
      cases tail with
      | loose => rfl
      | tight here registered tight operand => exact absurd closed (operand.start_ne refused)

/-- Behind an opening brace there is no object with a spread entry and a further word. -/
theorem not_derives_spread_word {done : List Entry} :
    ¬Derives registry tokens (.entries done whole) start stop := by
  intro derived
  have other : ∀ mark, startsWord mark = false → tokens[start + 1]? ≠ some mark := by
    intro mark plain same
    exact ne_of_startsWord behind plain (Option.some.inj (next.symm.trans same))
  cases derived with
  | lastEntry first brace =>
      obtain rfl := first.stop_of_spread word unclaimed marked next closed behind refused
      exact other _ (by decide) brace
  | moreEntries first comma =>
      obtain rfl := first.stop_of_spread word unclaimed marked next closed behind refused
      exact other _ (by decide) comma

end

theorem Derives.entries_of_object {tokens : Array String} {start stop : Nat} {token : String}
    {whole : Formula} (derived : Derives registry tokens (.unary token whole) start stop)
    (kind : role registry token = .object) :
    Derives registry tokens (.entries [] whole) (start + 1) stop := by
  cases derived <;> simp_all

theorem refused_brace (unclaimed : registry.unaryOperator? "\x7d" = none)
    (uncalled : registry.function? "\x7d" = none) : role registry "\x7d" = .refused := by
  have punctuation : Grammar.isPunctuation "\x7d" = true := by decide
  have literal : literal? "\x7d" = none := by decide +kernel
  have path : Grammar.isPath "\x7d" = false := by decide
  simp [role, unclaimed, uncalled, punctuation, literal, path]

end Formula

namespace Frame

variable {frame : Frame} {first rest : String} {depth start : Nat}

/-- Tokens that have a value are a formula, be there a limit or not. -/
theorem derives_of_outcome {value : Value} (valued : frame.outcome = .ok value) :
    ∃ whole, Derives frame.registry frame.tokens (.expression 0 whole) 0 frame.tokens.size := by
  have unlimited : (frame.vary none frame.invoke).outcome = .ok value := by
    cases limited : frame.limit with
    | none =>
        rw [← limited]
        exact valued
    | some limit =>
        have wider : Looser limit none := trivial
        rcases Frame.outcome_eq_or_tooDeep limited wider with same | deep
        · exact same.symm.trans valued
        · cases deep.symm.trans valued
  obtain ⟨whole, derived, -⟩ := Frame.worth_of_outcome rfl unlimited
  exact ⟨whole, derived⟩

/-- A bound name behind the mark of a spread is read up to a word behind it that is no operator. -/
theorem spreadOperand_of_name (ordinary : role frame.registry first = .name)
    (inside : start < frame.tokens.size) (next : frame.tokens[start + 1]? = some rest)
    (other : rest ≠ "(") (loose : frame.registry.operator? rest = none)
    (allows : frame.Allows (depth + 1)) :
    frame.spreadOperand depth first start =
      match Grammar.lookup frame.bindings first with
      | .ok value => (.ok value, start + 1)
      | .error error => (.error (.raised error), start + 1) := by
  have readable : (Production.unary first).ReadableAt frame start := inside
  have name : frame.production (depth + 1) (.unary first) start =
      Production.name frame first start := by
    rw [production_eq_step _ readable, step, unaryOrFactor_of_name _ _ ordinary]
  rw [spreadOperand, allows.nested_eq]
  cases found : Grammar.lookup frame.bindings first with
  | ok value =>
      have ends : Loose frame.registry frame.tokens 0 (start + 1) := by
        intro symbol here
        cases Option.some.inj (here.symm.trans next)
        exact .inl loose
      have readable : (Production.tail value 0).ReadableAt frame (start + 1) := trivial
      have read : Production.name frame first start = (.ok value, start + 1) := by
        simp [Production.name, found]
      rw [bind_of_ok (name.trans read), production_eq_step _ readable, step]
      exact climb_of_loose _ _ ends
  | error error =>
      have failed : Production.name frame first start = (.error (.raised error), start + 1) := by
        simp [Production.name, found, next, other]
      exact bind_of_error (name.trans failed)

/-- Where the marked name is bound, the object is refused at what it spreads, or at the word behind
it. -/
theorem entries_of_spread_word (ordinary : role frame.registry first = .name)
    (marked : frame.tokens[start]? = some ("..." ++ first))
    (next : frame.tokens[start + 1]? = some rest) (behind : startsWord rest = true)
    (loose : frame.registry.operator? rest = none)
    (allows : frame.Allows (depth + 1)) :
    frame.production depth (.entries []) start =
      (.error (.raised (match Grammar.lookup frame.bindings first with
        | .ok value =>
            .invalidObject
              (some (if (Grammar.spreadEntries? value).isSome then rest else "..." ++ first))
        | .error error => error)), start + 1) := by
  have operand := Grammar.spreadOperand?_mark first
  have other : ∀ mark, startsWord mark = false → rest ≠ mark := fun _ => ne_of_startsWord behind
  have spread := spreadOperand_of_name ordinary (lt_size marked) next (other "(" (by decide)) loose
    allows
  cases found : Grammar.lookup frame.bindings first with
  | error error =>
      rw [found] at spread
      exact EntriesAt.none.fault_of_operand marked operand spread
  | ok value =>
      rw [found] at spread
      have entry : frame.EntryAt depth (.spread ("..." ++ first) value) start (start + 1) :=
        .spread marked operand spread
      cases entries : Grammar.spreadEntries? value with
      | none =>
          simp only [entries, Option.isSome_none, Bool.false_eq_true, if_false]
          apply EntriesAt.none.refused entry
          intro written writes
          rw [EntryValue.writes_spread_iff, entries] at writes
          cases writes
      | some written =>
          simp only [entries, Option.isSome_some, if_true]
          exact EntriesAt.none.unclosed entry (EntryValue.writes_spread_iff.mpr entries) next
            (other _ (by decide)) (other _ (by decide))

section

variable (written : frame.tokens = #["\x7b", "..." ++ first, rest, "\x7d"])
  (behind : startsWord rest = true)

include written behind

theorem outcome_ne_of_spread_word (word : startsWord first = true)
    (unclaimed : ∀ token ∈ ["\x7b", first, "\x7d"], frame.registry.unaryOperator? token = none)
    (uncalled : frame.registry.function? "\x7d" = none) (value : Value) :
    frame.outcome ≠ .ok value := by
  intro valued
  have brace := role_brace (unclaimed "\x7b" (by simp))
  have refused := refused_brace (unclaimed "\x7d" (by simp)) uncalled
  obtain ⟨whole, derived⟩ := derives_of_outcome valued
  rw [written] at derived
  cases derived with
  | expression here leading tail =>
      cases here
      exact not_derives_spread_word word (unclaimed first (by simp)) rfl rfl rfl behind refused
        (leading.entries_of_object brace)

/-- Where the marked word is a name, the error of the object is the error of all. -/
theorem outcome_of_spread_word (ordinary : role frame.registry first = .name)
    (unclaimed : frame.registry.unaryOperator? "\x7b" = none)
    (loose : frame.registry.operator? rest = none) (allows : frame.Allows 2) :
    frame.outcome = raise (match Grammar.lookup frame.bindings first with
      | .ok value =>
          .invalidObject
            (some (if (Grammar.spreadEntries? value).isSome then rest else "..." ++ first))
      | .error error => error) := by
  have brace : frame.tokens[0]? = some "\x7b" := by simp [written]
  have marked : frame.tokens[1]? = some ("..." ++ first) := by simp [written]
  have next : frame.tokens[2]? = some rest := by simp [written]
  apply outcome_of_operand_fault (allows.of_le (Nat.le_succ 1))
  rw [operand_of_brace brace unclaimed]
  exact entries_of_spread_word ordinary marked next behind loose allows

end

end Frame

namespace Standard

/-- A standard engine without an extra pattern has no value for braces around the mark of a spread
and a path of two names or more, whatever the path reaches, unless the options make operators of the
braces or the first name.  The mark takes the first name only.  Where that is a variable it is
looked up and spread, and the error is at the others if it may be, else at the mark. -/
theorem evaluateIn_of_spread_path {clock : Calendar.Moment} {options : Options} {engine : Engine}
    (built : Engine.build (registry clock) options = .ok engine) (plain : options.pattern = none)
    {first second : String} {names : List String}
    (named : ∀ name ∈ first :: second :: names, isName name.toList = true)
    (unclaimed : ∀ token ∈ ["\x7b", first, "\x7d"], engine.registry.unaryOperator? token = none)
    (levels : Nat) (site : List Nat) (bindings : Table Value) :
    let path := ".".intercalate (first :: second :: names)
    let rest := ".".intercalate (second :: names)
    let text := "\x7b ..." ++ path ++ " \x7d"
    let outcome := engine.evaluateIn (levels + 1) site text bindings
    engine.tokens text = ["\x7b", "..." ++ first, rest, "\x7d"] ∧
      (∀ value, outcome ≠ .ok value) ∧
      (role engine.registry first = .name → engine.registry.operator? rest = none →
        (∀ limit, engine.limit = some limit → 2 ≤ limit) →
        outcome = raise (match Grammar.lookup bindings first with
          | .ok value =>
              .invalidObject
                (some (if (Grammar.spreadEntries? value).isSome then rest else "..." ++ first))
          | .error error => error)) := by
  intro path rest text outcome
  obtain ⟨starts, others⟩ := List.forall_mem_cons.mp named
  obtain ⟨next, -⟩ := List.forall_mem_cons.mp others
  have word : startsWord first = true := startsWord_of_isName starts
  have behind : startsWord rest = true := startsWord_joined names next
  have lexed : engine.tokens text = ["\x7b", "..." ++ first, rest, "\x7d"] := by
    unfold Engine.tokens
    rw [Engine.lexicon_of_build built plain]
    exact tokenTexts_spread_joined named
  have uncalled : engine.registry.function? "\x7d" = none := by
    rw [Engine.registry_of_build built]
    rfl
  let frame := engine.frame levels site #["\x7b", "..." ++ first, rest, "\x7d"] bindings
  have read : outcome = frame.outcome := by
    change engine.evaluateIn (levels + 1) site text bindings = _
    rw [Engine.evaluateIn_succ, lexed]
  have written : frame.tokens = #["\x7b", "..." ++ first, rest, "\x7d"] := rfl
  rw [read]
  exact ⟨lexed, Frame.outcome_ne_of_spread_word written behind word unclaimed uncalled,
    fun ordinary loose room =>
      Frame.outcome_of_spread_word written behind ordinary (unclaimed "\x7b" (by simp)) loose room⟩

/-- An array behind the mark is looked up and spread before the names behind it are refused. -/
theorem evaluateIn_of_spread_path_array :
    let engine := Engine.standardWith ⟨0, 0, 0⟩ [] none
    let bindings : Table Value := [("a", .array [.null])]
    engine.tokens "\x7b ...a.b.c \x7d" = ["\x7b", "...a", "b.c", "\x7d"] ∧
      engine.evaluateIn 1 [] "\x7b ...a.b.c \x7d" bindings =
        raise (.invalidObject (some "b.c")) := by
  intro engine bindings
  have built := Engine.build_standard ⟨0, 0, 0⟩ [] none
  have named : ∀ name ∈ ["a", "b", "c"], isName name.toList = true := by decide
  have unclaimed : ∀ token ∈ ["\x7b", "a", "\x7d"],
      engine.registry.unaryOperator? token = none := by
    simp only [List.forall_mem_cons, List.not_mem_nil]
    exact ⟨rfl, rfl, rfl, nofun⟩
  obtain ⟨lexed, -, refused⟩ := evaluateIn_of_spread_path built rfl named unclaimed 0 [] bindings
  exact ⟨lexed, refused rfl rfl nofun⟩

/-- The path reaches an object, and behind the mark it is refused. -/
theorem evaluateIn_spread_path_object :
    let engine := Engine.standardWith ⟨0, 0, 0⟩ [] none
    let bindings : Table Value := [("a", .object [("b", .object [("c", .boolean true)])])]
    Path.resolve bindings "a.b" = .object [("c", .boolean true)] ∧
      engine.evaluateIn 1 [] "\x7b ...a.b \x7d" bindings = raise (.invalidObject (some "b")) ∧
      engine.evaluateIn 1 [] "\x7b ...a.b \x7d" bindings ≠
        .ok (.object [("c", .boolean true)]) := by
  intro engine bindings
  have refused : engine.evaluateIn 1 [] "\x7b ...a.b \x7d" bindings =
      raise (.invalidObject (some "b")) := by
    simp only [engine, bindings]
    rfl
  refine ⟨by simp only [bindings]; rfl, refused, ?_⟩
  rw [refused]
  nofun

end Standard

end Reckon
