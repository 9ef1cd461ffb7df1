import Reckon.Proofs.Path
import Reckon.Proofs.Formula.Keys
import Reckon.Proofs.Formula.Paths
import Reckon.Proofs.Engine.Objects
import Reckon.Proofs.Engine.Spacing
import Reckon.Proofs.Lexicon.Points
import Reckon.Proofs.Standard.Tokens

/-!
The keys of an object literal, read back behind the name of the object.  A key that is a name gives
the value of its entry.  A key may be a path too, since only its first character is looked at; its
entry is not on that path and cannot be read back.
-/

namespace Reckon

open Formula Lexeme Outcome Parse Production

theorem Grammar.isPath_iff {token : String} : isPath token = true ↔ ¬Path.Plain token := by
  unfold isPath Path.Plain
  rw [List.any_eq_true]
  constructor
  · rintro ⟨c, member, joint⟩ ⟨point, bracket⟩
    rcases Bool.or_eq_true_iff.mp joint with same | same <;> cases of_decide_eq_true same
    · exact point member
    · exact bracket member
  · intro joined
    by_cases point : '.' ∈ token.toList
    · exact ⟨'.', point, rfl⟩
    · exact ⟨'[', by_contra fun bracket => joined ⟨point, bracket⟩, rfl⟩

def Grammar.isLetter (c : Char) : Bool :=
  c = '_' || Unicode.isAlphabetic c

theorem Grammar.isIdentifier_eq (token : String) :
    isIdentifier token = token.toList.head?.any isLetter := by
  unfold isIdentifier
  cases token.toList <;> rfl

namespace Lexeme

variable {text : List Char} {kind : TokenKind}

theorem not_isLetter {c : Char} (early : c.toNat < 128) (plain : c.isAlpha = false)
    (other : c ≠ '_') : Grammar.isLetter c = false := by
  simp [Grammar.isLetter, Unicode.isAlphabetic, other, early, plain]

theorem not_isLetter_of_isDigit {c : Char} (digit : c.isDigit = true) :
    Grammar.isLetter c = false := by
  have range := range_of_isDigit digit
  have plain : c.isAlpha = false := by
    by_contra letter
    have range := range_of_isAlpha (Bool.not_eq_false _ ▸ letter)
    omega
  refine not_isLetter (by omega) plain ?_
  rintro rfl
  cases digit

theorem not_isLetter_of_isSpecial {c : Char} (special : isSpecial c = true) :
    Grammar.isLetter c = false := by
  have all : ("-+*/():,<>!=%^[]\x7b\x7d".toList.all fun other =>
      decide (other.toNat < 128) && !other.isAlpha && other != '_') = true := by decide
  have plain := List.all_eq_true.mp all c (List.contains_iff_mem.mp special)
  simp only [Bool.and_eq_true, decide_eq_true_eq, Bool.not_eq_true', bne_iff_ne] at plain
  exact not_isLetter plain.1.1 plain.1.2 plain.2

theorem Shape.path_of_isLetter (shape : Shape kind text)
    (letter : text.head?.any Grammar.isLetter = true) : Shape .path text := by
  have starts : ∀ c, text.head? = some c → Grammar.isLetter c = true := by
    intro c found
    rwa [found] at letter
  have absent : ∀ c, text.head? = some c → Grammar.isLetter c = false → Shape .path text := by
    intro c found other
    rw [starts c found] at other
    cases other
  cases shape with
  | path named points indices => exact .path named points indices
  | comparison mark => exact absent _ rfl (by rcases mark with rfl | rfl | rfl | rfl <;> decide)
  | special special => exact absent _ rfl (not_isLetter_of_isSpecial special)
  | @numeral digits fraction run =>
      obtain ⟨first, others, rfl⟩ := List.exists_cons_of_ne_nil run.nonempty
      exact absent first rfl (not_isLetter_of_isDigit (run.all first List.mem_cons_self))
  | quoted opens =>
      rcases Bool.or_eq_true_iff.mp opens with quote | quote <;> cases of_decide_eq_true quote
      · exact absent '"' rfl (by decide)
      · exact absent '\'' rfl (by decide)
  | spread => exact absent '.' rfl (by decide)

theorem tokens_of_shape {token : String} (shape : Shape kind token.toList) :
    Lexicon.builtin.tokens token = [token] := by
  rw [Lexicon.tokens, lexemes_builtin, split_of_shape shape]
  simp

/-- What is read as the key of an object is a path, maybe of one name only. -/
theorem shape_of_isIdentifier {text token : String} (member : token ∈ Lexicon.builtin.tokens text)
    (identifier : Grammar.isIdentifier token = true) : Shape .path token.toList := by
  obtain ⟨lexeme, among, rfl⟩ := List.mem_map.mp member
  have shape := shape_of_mem_lexemes among
  rw [Grammar.isIdentifier_eq, String.toList_ofList] at identifier
  rw [String.toList_ofList]
  exact shape.path_of_isLetter identifier

end Lexeme

namespace Formula

theorem role_of_point {registry : Registry} {name rest : String}
    (named : isName name.toList = true)
    (unclaimed : registry.unaryOperator? (name ++ "." ++ rest) = none) :
    role registry (name ++ "." ++ rest) = .path := by
  obtain ⟨first, more, equal, letter, word⟩ := isName_iff.mp named
  have chars : (name ++ "." ++ rest).toList = first :: (more ++ '.' :: rest.toList) := by
    simp [equal]
  have point : '.' ∈ (name ++ "." ++ rest).toList := by simp
  have path : Grammar.isPath (name ++ "." ++ rest) = true :=
    Grammar.isPath_iff.mpr fun plain => plain.1 point
  have other : ∀ token : String, '.' ∉ token.toList → name ++ "." ++ rest ≠ token := by
    rintro token free rfl
    exact free point
  have proper := And.intro (other "true" (by decide)) (other "false" (by decide))
  have literal := literal?_of_word chars (word first List.mem_cons_self) letter proper
  simp [role, unclaimed, literal, path, other "(" (by decide), other "[" (by decide),
    other "\x7b" (by decide)]

end Formula

namespace Frame

variable {frame : Frame}

theorem allows_of_outcome {value : Value} (valued : frame.outcome = .ok value) :
    frame.Allows 1 := by
  have readable : (Production.expression 0).ReadableAt frame 0 := trivial
  rcases bind_cases (frame.expression 0 0) _ 0 with
    ⟨fault, reached, -, failed⟩ | ⟨first, reached, read, -⟩
  · have ended : frame.outcome = .error fault := congrArg Prod.fst failed
    cases ended.symm.trans valued
  · have read : frame.production 0 (.expression 0) 0 = _ := read
    rw [production_eq_step 0 readable, step] at read
    exact .of_nested read

theorem operand_of_path {token : String} {depth start : Nat}
    (here : frame.tokens[start]? = some token) (kind : role frame.registry token = .path) :
    operand frame frame.production depth start =
      (.ok (Path.resolve frame.bindings token), start + 1) := by
  have readable : (Production.unary token).ReadableAt frame start := lt_size here
  rw [operand, current_bind, here]
  change frame.production depth (.unary token) start = _
  rw [production_eq_step depth readable, step, unaryOrFactor_of_path _ _ kind]
  rfl

end Frame

namespace Engine

variable {engine : Engine}

theorem evaluateIn_of_path {text token : String} (lexed : engine.tokens text = [token])
    (kind : role engine.registry token = .path)
    (room : ∀ limit, engine.limit = some limit → 1 ≤ limit) (levels : Nat) (site : List Nat)
    (bindings : Table Value) :
    engine.evaluateIn (levels + 1) site text bindings = .ok (Path.resolve bindings token) := by
  rw [evaluateIn_succ, lexed]
  exact Frame.outcome_of_operand room (Frame.operand_of_path rfl kind)

/-- A key behind the name of an object and a point is followed from the object. -/
theorem evaluateIn_behind_name (builtin : engine.lexicon = .builtin) {name key : String}
    (named : isName name.toList = true) (shape : Shape .path key.toList)
    (unclaimed : engine.registry.unaryOperator? (name ++ "." ++ key) = none)
    (room : ∀ limit, engine.limit = some limit → 1 ≤ limit) (levels : Nat) (site : List Nat)
    {bindings entries : Table Value} (bound : Table.get? bindings name = some (.object entries)) :
    engine.evaluateIn (levels + 1) site (name ++ "." ++ key) bindings =
      .ok (Path.resolve entries key) := by
  have free : Path.Plain name := ⟨name_ne named (by decide), name_ne named (by decide)⟩
  have base : Path.resolve bindings name = .object entries := by
    rw [Path.resolve_of_plain bindings free, bound]
    rfl
  have whole : Shape .path (name ++ "." ++ key).toList := by
    have path := shape.behind_name named
    simpa using path
  have lexed : engine.tokens (name ++ "." ++ key) = [name ++ "." ++ key] := by
    rw [Engine.tokens, builtin, tokens_of_shape whole]
  rw [evaluateIn_of_path lexed (role_of_point named unclaimed) room, Path.resolve_append, base,
    Path.follow_object]

end Engine

namespace Standard

/-- An entry of an object literal that writes its key last.  Where the key is a name, the name that
the object is bound to, a point and the key give the value of the entry.  Where the key is a path
itself it is followed from the object, and what stands under the whole key makes no difference. -/
theorem evaluateIn_of_key {clock : Calendar.Moment} {options : Options} {engine : Engine}
    (built : Engine.build (registry clock) options = .ok engine) (plain : options.pattern = none)
    {levels : Nat} {site : List Nat} {text key : String} {bindings : Table Value} {result : Value}
    {before after : List Entry} {expression : Formula}
    (read : Formula.read engine.registry (engine.tokens text).toArray =
      .ok (.object (before ++ .keyed key expression :: after)))
    (last : ∀ entry ∈ after, ¬entry.Writes
      (engine.frame levels site (engine.tokens text).toArray bindings).setting key)
    (valued : engine.evaluateIn (levels + 1) site text bindings = .ok result) {name : String}
    (named : isName name.toList = true)
    (unclaimed : engine.registry.unaryOperator? (name ++ "." ++ key) = none) :
    let setting := (engine.frame levels site (engine.tokens text).toArray bindings).setting
    ∃ entries value, result = .object entries ∧ expression.evaluate setting = .ok value ∧
      Table.get? entries key = some value ∧
      ∀ levels site bindings, Table.get? bindings name = some result →
        let outcome := engine.evaluateIn (levels + 1) site (name ++ "." ++ key) bindings
        (Grammar.isPath key = false → outcome = .ok value) ∧
          (Grammar.isPath key = true → outcome = .ok (Path.resolve entries key) ∧
            ∀ other, Path.resolve (Table.insert entries key other) key =
              Path.resolve entries key) := by
  intro setting
  let frame := engine.frame levels site (engine.tokens text).toArray bindings
  have builtin := Engine.lexicon_of_build built plain
  have derived := read_eq_ok_iff.mp read
  have valued : frame.outcome = .ok result := valued
  have room := Frame.allows_of_outcome valued
  have evaluated : evaluate setting (.object (before ++ .keyed key expression :: after)) =
      .ok result := by
    rcases @Frame.outcome_of_derives_or_tooDeep frame _ derived with same | ⟨_, -, deep⟩
    · exact same.symm.trans valued
    · cases deep.symm.trans valued
  obtain ⟨entries, written, equal⟩ := bind_eq_ok_iff.mp evaluated
  cases equal
  obtain ⟨value, worth, found⟩ := get?_of_last_writes last written
  -- A key is only known by its first character, but only paths start like that.
  have shape : Shape .path key.toList := by
    obtain ⟨listed, identifier⟩ :=
      derived.hasKeys key expression (List.mem_append_right _ List.mem_cons_self)
    rw [List.mem_toArray, Engine.tokens, builtin] at listed
    exact shape_of_isIdentifier listed identifier
  refine ⟨entries, value, rfl, worth, found, ?_⟩
  intro levels site bindings bound outcome
  have resolved : outcome = .ok (Path.resolve entries key) :=
    Engine.evaluateIn_behind_name builtin named shape unclaimed room levels site bound
  refine ⟨?_, ?_⟩
  · intro single
    have free : Path.Plain key := by
      by_contra joined
      rw [Grammar.isPath_iff.mpr joined] at single
      cases single
    rw [resolved, Path.resolve_of_plain entries free, found]
    rfl
  · intro joined
    exact ⟨resolved, Path.resolve_insert_of_not_plain (Grammar.isPath_iff.mp joined) entries⟩

/-- A name and a path as keys of one literal: the first one is read back, behind the second one
there is nothing. -/
theorem evaluateIn_of_key_mixed :
    let engine := Engine.standardWith ⟨0, 0, 0⟩ [] none
    let text := "\x7b a: true, b.c: false \x7d"
    let tree : Formula :=
      .object [.keyed "a" (.literal (.boolean true)), .keyed "b.c" (.literal (.boolean false))]
    let object : Value := .object [("a", .boolean true), ("b.c", .boolean false)]
    Formula.read engine.registry (engine.tokens text).toArray = .ok tree ∧
      engine.evaluateIn 1 [] text [] = .ok object ∧
      engine.evaluateIn 1 [] "o.a" [("o", object)] = .ok (.boolean true) ∧
      engine.evaluateIn 1 [] "o.b.c" [("o", object)] = .ok .null := by
  intro engine text tree object
  have built := Engine.build_standard ⟨0, 0, 0⟩ [] none
  have lexed : engine.tokens text =
      ["\x7b", "a", ":", "true", ",", "b.c", ":", "false", "\x7d"] := by decide +kernel
  have read : Formula.read engine.registry (engine.tokens text).toArray = .ok tree := by
    rw [lexed, read_eq_ok_iff]
    have first : Derives engine.registry
        #["\x7b", "a", ":", "true", ",", "b.c", ":", "false", "\x7d"]
        (.entry (.keyed "a" (.literal (.boolean true)))) 1 4 :=
      .keyed rfl rfl rfl rfl ⟨"true", rfl, by decide, by decide⟩
        (.expression rfl (.literal rfl) (.loose (by rintro symbol ⟨⟩; exact .inl rfl)))
    have second : Derives engine.registry
        #["\x7b", "a", ":", "true", ",", "b.c", ":", "false", "\x7d"]
        (.entry (.keyed "b.c" (.literal (.boolean false)))) 5 8 :=
      .keyed rfl rfl rfl rfl ⟨"false", rfl, by decide, by decide⟩
        (.expression rfl (.literal rfl) (.loose (by rintro symbol ⟨⟩; exact .inl rfl)))
    exact .alone rfl (.object rfl (.moreEntries first rfl (.lastEntry second rfl))) rfl
  have valued : engine.evaluateIn 1 [] text [] = .ok object := by
    simp only [engine, text]
    rfl
  have other : ∀ entry ∈ [Entry.keyed "b.c" (.literal (.boolean false))],
      ¬entry.Writes (engine.frame 0 [] (engine.tokens text).toArray []).setting "a" := by
    rintro entry member
    cases List.mem_singleton.mp member
    exact mt writes_keyed_iff.mp (by decide)
  obtain ⟨_, value, -, worth, -, names⟩ :=
    @evaluateIn_of_key _ _ _ built rfl 0 [] text "a" [] object [] _ _ read other valued "o" rfl rfl
  obtain ⟨entries, _, equal, -, -, paths⟩ :=
    @evaluateIn_of_key _ _ _ built rfl 0 [] text "b.c" [] object [_] [] _ read nofun valued "o" rfl
      rfl
  obtain rfl := Except.ok.inj worth
  obtain rfl := Value.object.inj equal
  obtain ⟨single, -⟩ := names 0 [] [("o", object)] rfl
  obtain ⟨-, joined⟩ := paths 0 [] [("o", object)] rfl
  exact ⟨read, valued, single rfl, (joined rfl).1⟩

/-- A literal with a path as its only key has a value, and the value of its entry is not behind the
name of the object. -/
theorem evaluateIn_dotted_key :
    let engine := Engine.standardWith ⟨0, 0, 0⟩ [] none
    let object : Value := .object [("a.b", .boolean true)]
    engine.evaluateIn 1 [] "\x7b a.b: true \x7d" [] = .ok object ∧
      engine.evaluateIn 1 [] "o.a.b" [("o", object)] = .ok .null ∧
      engine.evaluateIn 1 [] "o.a.b" [("o", object)] ≠ .ok (.boolean true) := by
  intro engine object
  have missed : engine.evaluateIn 1 [] "o.a.b" [("o", object)] = .ok .null := by
    simp only [engine, object]
    rfl
  refine ⟨?_, missed, ?_⟩
  · simp only [engine]
    rfl
  · rw [missed]
    nofun

end Standard

end Reckon
