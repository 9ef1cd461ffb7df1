import Reckon.Proofs.Formula.Paths
import Reckon.Proofs.Standard.Calls

/-!
Spread tokens where a value is expected.  The points of the mark make such a token a path, and the
name before the first point is empty.  With nothing bound to the empty name it is null.
-/

namespace Reckon

namespace Grammar

def isSpread (token : String) : Bool :=
  spreadMark.isPrefixOf token.toList

def spreadValue? (token : String) : Option Value :=
  if isSpread token then some .null else none

section

variable {token : String} (spread : isSpread token = true)

include spread

theorem exists_word_of_isSpread : ∃ word, token.toList = '.' :: '.' :: '.' :: word := by
  obtain ⟨word, characters⟩ := List.isPrefixOf_iff_prefix.mp spread
  exact ⟨word, characters.symm⟩

theorem ne_of_isSpread {other : String} (plain : isSpread other = false) : token ≠ other := by
  rintro rfl
  rw [spread] at plain
  cases plain

theorem literal?_of_isSpread : Formula.literal? token = none := by
  obtain ⟨word, characters⟩ := exists_word_of_isSpread spread
  have numeral : numeral? token = none := by
    simp [numeral?, characters, Numeral.read?, Numeral.spanSign, Numeral.readUnsigned?,
      Numeral.spanFigures]
  have text : unquote? token = none := by
    simp [unquote?, characters]
  have yes : token ≠ "true" := ne_of_isSpread spread rfl
  have no : token ≠ "false" := ne_of_isSpread spread rfl
  simp [Formula.literal?, numeral, text, yes, no]

theorem isPath_of_isSpread : isPath token = true := by
  obtain ⟨word, characters⟩ := exists_word_of_isSpread spread
  simp [isPath, characters]

theorem role_of_isSpread {registry : Registry} (unclaimed : registry.unaryOperator? token = none) :
    Formula.role registry token = .path := by
  have parenthesis : token ≠ "(" := ne_of_isSpread spread rfl
  have bracket : token ≠ "[" := ne_of_isSpread spread rfl
  have brace : token ≠ "\x7b" := ne_of_isSpread spread rfl
  simp [Formula.role, unclaimed, parenthesis, bracket, brace, literal?_of_isSpread spread,
    isPath_of_isSpread spread]

theorem resolve_of_isSpread {bindings : Table Value} (unbound : Table.get? bindings "" = none) :
    Path.resolve bindings token = .null := by
  obtain ⟨word, characters⟩ := exists_word_of_isSpread spread
  have empty : Path.partSegments [] = [[]] := rfl
  have root : ∃ rest, Path.segments token = "" :: rest := by
    unfold Path.segments
    rw [characters, Text.fields, if_pos rfl, List.flatMap_cons, empty]
    exact ⟨_, rfl⟩
  obtain ⟨rest, root⟩ := root
  unfold Path.resolve
  simp only [root, unbound]

end

theorem knows_spreadValue? {setting : Formula.Setting}
    (unbound : Table.get? setting.bindings "" = none) : setting.Knows spreadValue? := by
  intro token value known
  unfold spreadValue? at known
  split at known
  · rename_i spread
    cases known
    exact resolve_of_isSpread spread unbound
  · cases known

end Grammar

open Grammar Parse Production

/-- Where an operand is expected a spread token is one: it is read as null and evaluation goes on
behind it. -/
theorem Frame.operand_of_isSpread {frame : Frame} {token : String} {position : Nat}
    (here : frame.tokens[position]? = some token) (spread : isSpread token = true)
    (unclaimed : frame.registry.unaryOperator? token = none)
    (unbound : Table.get? frame.bindings "" = none) (fuel depth : Nat) :
    operand frame (run frame (fuel + 1)) depth position = (.ok .null, position + 1) := by
  unfold operand
  rw [current_bind]
  simp only [here]
  rw [run_succ, step, unaryOrFactor_of_path _ depth (role_of_isSpread spread unclaimed),
    advance_bind, resolve_of_isSpread spread unbound]
  rfl

namespace Standard

theorem unaryOperator?_of_isSpread {clock : Calendar.Moment} {options : Options} {engine : Engine}
    (built : Engine.build (registry clock) options = .ok engine)
    (unclaimed : ∀ entry ∈ options.unaryOperators, isSpread entry.1 = false) {token : String}
    (spread : isSpread token = true) : engine.registry.unaryOperator? token = none := by
  rw [Engine.registry_of_build built, Option.eq_none_iff_forall_ne_some]
  intro operator registered
  rcases Table.mem_of_get?_insertAll registered with added | standard
  · exact ne_of_isSpread spread (unclaimed _ added) rfl
  · have member := Table.mem_of_get? standard
    have own : (registry clock).unaryOperators =
        unaryOperators.map fun entry => (entry.1, fun operand => .ok (entry.2 operand)) := rfl
    have plain : ∀ entry ∈ (registry clock).unaryOperators, isSpread entry.1 = false := by
      rw [own, List.forall_mem_map]
      decide
    exact ne_of_isSpread spread (plain _ member) rfl

/-- In a standard engine a spread token is a value wherever one is expected: with nothing bound to
the empty name it is read as null.  A text comes to what its tree does with null in place of every
spread token that is a value, be it an operand, an element, an argument or behind a key. -/
theorem evaluateIn_of_spread {clock : Calendar.Moment} {options : Options} {engine : Engine}
    (built : Engine.build (registry clock) options = .ok engine)
    (unclaimed : ∀ entry ∈ options.unaryOperators, isSpread entry.1 = false)
    {bindings : Table Value} (unbound : Table.get? bindings "" = none) (levels : Nat)
    (site : List Nat) (text : String) :
    let frame := engine.frame levels site (engine.tokens text).toArray bindings
    (∀ position token, frame.tokens[position]? = some token → isSpread token = true →
      ∀ fuel depth,
        operand frame (run frame (fuel + 1)) depth position = (.ok .null, position + 1)) ∧
      ∀ formula,
        Formula.Derives engine.registry frame.tokens (.expression 0 formula) 0 frame.tokens.size →
        engine.evaluateIn (levels + 1) site text bindings =
            (formula.fillPaths spreadValue?).evaluate frame.setting ∨
          ∃ limit, engine.limit = some limit ∧
            engine.evaluateIn (levels + 1) site text bindings =
              Outcome.raise (.nestingTooDeep limit) := by
  intro frame
  refine ⟨?_, ?_⟩
  · intro position token here spread fuel depth
    have plain := unaryOperator?_of_isSpread built unclaimed spread
    exact Frame.operand_of_isSpread here spread plain unbound fuel depth
  · intro formula derived
    have knows : frame.setting.Knows spreadValue? := knows_spreadValue? unbound
    rw [Formula.evaluate_fillPaths knows]
    exact Frame.outcome_of_derives_or_tooDeep derived

/-- As the only element of an array a spread token is null, whatever the name behind the mark is
bound to. -/
theorem evaluateIn_of_spread_array :
    let engine := Engine.standardWith ⟨0, 0, 0⟩ [] none
    let bindings : Table Value := [("a", .array [.boolean true])]
    Table.get? bindings "" = none ∧ engine.tokens "[...a]" = ["[", "...a", "]"] ∧
      isSpread "...a" = true ∧
      Formula.Derives engine.registry #["[", "...a", "]"] (.expression 0 (.array [.path "...a"]))
        0 3 ∧
      engine.evaluateIn 1 [] "[...a]" bindings = .ok (.array [.null]) := by
  intro engine bindings
  have built : Engine.build (registry ⟨0, 0, 0⟩) {} = .ok engine := rfl
  have unbound : Table.get? bindings "" = none := rfl
  have lexed : engine.tokens "[...a]" = ["[", "...a", "]"] := by decide +kernel
  have closed : Formula.Loose engine.registry #["[", "...a", "]"] 0 2 := by
    rintro symbol ⟨⟩
    exact .inl rfl
  have ended : Formula.Loose engine.registry #["[", "...a", "]"] 0 3 := nofun
  have element : Formula.Derives engine.registry #["[", "...a", "]"]
      (.expression 0 (.path "...a")) 1 2 :=
    .expression rfl (.path rfl) (.loose closed)
  have array : Formula.Derives engine.registry #["[", "...a", "]"]
      (.expression 0 (.array [.path "...a"])) 0 3 :=
    .expression rfl (.array rfl (.element (by decide) element (.inr ⟨rfl, rfl⟩) (.lastElement rfl)))
      (.loose ended)
  refine ⟨unbound, lexed, by decide, array, ?_⟩
  obtain ⟨-, whole⟩ := evaluateIn_of_spread built nofun unbound 0 [] "[...a]"
  rw [lexed] at whole
  rcases whole _ array with value | ⟨limit, limited, -⟩
  · exact value
  · cases limited

/-- As an element it is null too, and no error. -/
theorem evaluateIn_spread_element :
    let engine := Engine.standardWith ⟨0, 0, 0⟩ [] none
    let bindings : Table Value := [("a", .array [.boolean true])]
    Table.get? bindings "" = none ∧
      engine.tokens "[true, ...a]" = ["[", "true", ",", "...a", "]"] ∧
      engine.evaluateIn 1 [] "[true, ...a]" bindings = .ok (.array [.boolean true, .null]) := by
  intro engine bindings
  refine ⟨rfl, by decide +kernel, ?_⟩
  simp only [engine, bindings]
  rfl

end Standard

end Reckon
