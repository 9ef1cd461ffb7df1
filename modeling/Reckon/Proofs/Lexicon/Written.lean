import Mathlib.Data.List.Chain
import Reckon.Proofs.Lexicon.Shape

/-!
Texts of tokens with blanks around them.  Between two tokens there need be no blank if the first is
a special character by itself or the second goes on with no token.
-/

namespace Reckon.Lexeme

open Text (isBlank)

/-- A text of tokens one after the other, with any blanks before, between and behind them. -/
inductive Written : List String → List Char → Prop
  | nil : Written [] []
  | blank {c : Char} {tokens : List String} {text : List Char} (blank : isBlank c = true)
      (rest : Written tokens text) : Written tokens (c :: text)
  | token {token : String} {tokens : List String} {text : List Char}
      (rest : Written tokens text) : Written (token :: tokens) (token.toList ++ text)

theorem Written.blanks {tokens : List String} {front text : List Char}
    (all : ∀ c ∈ front, isBlank c = true) (written : Written tokens text) :
    Written tokens (front ++ text) := by
  induction front with
  | nil => exact written
  | cons c front ih =>
      exact .blank (all c List.mem_cons_self)
        (ih fun other member => all other (List.mem_cons_of_mem _ member))

/-- Find tokens in a text, each behind all blanks before it, and blanks behind the last one. -/
def writes : List String → List Char → Bool
  | [], text => text.all isBlank
  | token :: tokens, text =>
      token.toList.isPrefixOf (text.dropWhile isBlank) &&
        writes tokens ((text.dropWhile isBlank).drop token.toList.length)

theorem Written.of_writes {tokens : List String} {text : List Char}
    (found : writes tokens text = true) : Written tokens text := by
  induction tokens generalizing text with
  | nil =>
      have blank := Written.blanks (List.all_eq_true.mp found) .nil
      rwa [List.append_nil] at blank
  | cons token tokens ih =>
      obtain ⟨here, rest⟩ := Bool.and_eq_true_iff.mp found
      obtain ⟨back, equal⟩ := List.isPrefixOf_iff_prefix.mp here
      have more := ih rest
      rw [← equal, List.drop_left] at more
      have whole : Written (token :: tokens) (text.takeWhile isBlank ++ (token.toList ++ back)) :=
        .blanks (fun c => List.mem_takeWhile_imp) (.token more)
      rwa [equal, List.takeWhile_append_dropWhile] at whole

/-- A token that is a special character with which no comparison starts. -/
def Alone (token : String) : Prop :=
  ∃ c, token.toList = [c] ∧ isSpecial c = true ∧ c ≠ '<' ∧ c ≠ '>' ∧ c ≠ '=' ∧ c ≠ '!'

/-- Two tokens that stay apart without a blank between them. -/
def Apart (first second : String) : Prop :=
  Alone first ∨ ∃ c rest, second.toList = c :: rest ∧ Seam c

/-- Tokens that are read as they are from a text of them, whatever blanks are between them. -/
structure Separable (tokens : List String) : Prop where
  shapes : ∀ token ∈ tokens, ∃ kind, Shape kind token.toList
  apart : tokens.IsChain Apart

namespace Separable

variable {token : String} {tokens others : List String}

theorem single {kind : TokenKind} (shape : Shape kind token.toList) : Separable [token] where
  shapes other member := by
    rw [List.mem_singleton.mp member]
    exact ⟨kind, shape⟩
  apart := .singleton token

theorem tail (separable : Separable (token :: tokens)) : Separable tokens where
  shapes other member := separable.shapes other (List.mem_cons_of_mem _ member)
  apart := separable.apart.tail

theorem cons (alone : Alone token) (separable : Separable tokens) :
    Separable (token :: tokens) where
  shapes other member := by
    rcases List.mem_cons.mp member with rfl | member
    · obtain ⟨c, single, special, -⟩ := alone
      exact ⟨.special, single ▸ .special special⟩
    · exact separable.shapes other member
  apart := .cons separable.apart fun _ _ => .inl alone

theorem append (first : Separable tokens) (second : Separable others)
    (seam : ∀ next, others.head? = some next → ∃ c rest, next.toList = c :: rest ∧ Seam c) :
    Separable (tokens ++ others) where
  shapes token member := by
    rcases List.mem_append.mp member with member | member
    · exact first.shapes token member
    · exact second.shapes token member
  apart := List.isChain_append.mpr
    ⟨first.apart, second.apart, fun _ _ next found => .inr (seam next found)⟩

end Separable

theorem Written.head_seam {token : String} {tokens : List String} {text : List Char}
    (written : Written tokens text) (separable : Separable (token :: tokens))
    (joined : ¬Alone token) : ∀ c, text.head? = some c → Seam c := by
  cases written with
  | nil => nofun
  | blank blank rest =>
      rintro c ⟨⟩
      exact Seam.of_isBlank blank
  | @token next tokens text rest =>
      rcases (List.isChain_cons_cons.mp separable.apart).1 with alone | ⟨c, more, equal, seam⟩
      · exact absurd alone joined
      · rw [equal]
        rintro _ ⟨⟩
        exact seam

theorem Written.tokenTexts {tokens : List String} {text : List Char} (written : Written tokens text)
    (separable : Separable tokens) : tokenTexts text = tokens := by
  induction written with
  | nil => rfl
  | blank blank rest ih =>
      unfold Lexeme.tokenTexts at ih ⊢
      rw [split_blank blank, ih separable]
  | @token token tokens text rest ih =>
      have more := ih separable.tail
      by_cases alone : Alone token
      · obtain ⟨c, single, special, plain⟩ := alone
        rw [single, List.cons_append, List.nil_append,
          tokenTexts_special special (comparisonLength_of_ne plain), more, ← single,
          String.ofList_toList]
      · obtain ⟨kind, shape⟩ := separable.shapes token List.mem_cons_self
        -- a bracket could begin an index with what is behind it, but it stands alone
        have other : token.toList ≠ ['['] := fun bracket =>
          alone ⟨'[', bracket, by decide, by decide, by decide, by decide, by decide⟩
        unfold Lexeme.tokenTexts at more ⊢
        rw [split_shape shape (rest.head_seam separable alone) fun _ => other]
        simp only [texts, List.map_cons, String.ofList_toList] at more ⊢
        rw [more]

end Reckon.Lexeme
