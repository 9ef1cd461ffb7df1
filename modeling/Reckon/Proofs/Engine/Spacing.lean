import Reckon.Proofs.Lexicon.Shape
import Reckon.Proofs.Standard.Calls

/-!
A text with one space between its tokens comes to what the text comes to.
-/

namespace Reckon

open Lexeme

namespace Lexicon

def spaced (lexicon : Lexicon) (text : String) : String :=
  " ".intercalate (lexicon.tokens text)

/-- With a space between them the built-in tokens of a text stay what they are. -/
theorem lexemes_spaced (text : String) :
    builtin.lexemes (builtin.spaced text) = builtin.lexemes text := by
  have chars : (builtin.spaced text).toList =
      [' '].intercalate ((builtin.lexemes text).map Lexeme.text) := by
    simp [spaced, tokens, Function.comp_def]
  rw [lexemes_builtin, chars]
  exact split_intercalate fun lexeme member => shape_of_mem_lexemes member

end Lexicon

namespace Engine

theorem lexicon_of_build {registry : Registry} {options : Options} {engine : Engine}
    (built : build registry options = .ok engine) (plain : options.pattern = none) :
    engine.lexicon = .builtin := by
  unfold build at built
  rw [plain] at built
  cases built
  rfl

theorem evaluateIn_congr {engine : Engine} {first second : String}
    (same : engine.tokens first = engine.tokens second) (levels : Nat) (site : List Nat)
    (bindings : Table Value) :
    engine.evaluateIn levels site first bindings =
      engine.evaluateIn levels site second bindings := by
  cases levels with
  | zero => rfl
  | succ levels => rw [evaluateIn_succ, evaluateIn_succ, same]

end Engine

/-- The built-in tokens of a text with a space between them are its tokens again, and so a standard
engine without an extra pattern comes to the same outcome for it as for the text. -/
theorem Standard.evaluateIn_spaced (text : String) :
    Lexicon.builtin.tokens (Lexicon.builtin.spaced text) = Lexicon.builtin.tokens text ∧
      ∀ (clock : Calendar.Moment) (options : Options) (engine : Engine),
        Engine.build (registry clock) options = .ok engine → options.pattern = none →
        ∀ (levels : Nat) (site : List Nat) (bindings : Table Value),
          engine.evaluateIn levels site (Lexicon.builtin.spaced text) bindings =
            engine.evaluateIn levels site text bindings := by
  have same : Lexicon.builtin.tokens (Lexicon.builtin.spaced text) =
      Lexicon.builtin.tokens text := by
    unfold Lexicon.tokens
    rw [Lexicon.lexemes_spaced]
  refine ⟨same, ?_⟩
  intro clock options engine built plain levels site bindings
  apply Engine.evaluateIn_congr
  unfold Engine.tokens
  rw [Engine.lexicon_of_build built plain]
  exact same

/-- A string keeps the spaces inside it, and a point that belongs to no token is left out. -/
theorem Standard.evaluateIn_spaced_string :
    Lexicon.builtin.spaced "['a  b',\ttrue]." = "[ 'a  b' , true ]" ∧
      (Engine.standardWith ⟨0, 0, 0⟩ [] none).evaluateIn 1 [] "['a  b',\ttrue]." [] =
        .ok (.array [.string "a  b", .boolean true]) ∧
      (Engine.standardWith ⟨0, 0, 0⟩ [] none).evaluateIn 1 [] "[ 'a  b' , true ]" [] =
        .ok (.array [.string "a  b", .boolean true]) := by
  have built := Engine.build_standard ⟨0, 0, 0⟩ [] none
  have spaced : Lexicon.builtin.spaced "['a  b',\ttrue]." = "[ 'a  b' , true ]" := by
    decide +kernel
  have value : (Engine.standardWith ⟨0, 0, 0⟩ [] none).evaluateIn 1 [] "['a  b',\ttrue]." [] =
      .ok (.array [.string "a  b", .boolean true]) := rfl
  obtain ⟨-, same⟩ := evaluateIn_spaced "['a  b',\ttrue]."
  refine ⟨spaced, value, ?_⟩
  rw [← spaced]
  exact (same _ _ _ built rfl 1 [] []).trans value

end Reckon
