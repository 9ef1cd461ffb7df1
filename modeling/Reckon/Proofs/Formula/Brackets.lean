import Reckon.Proofs.Formula.Derivation

/-!
Brackets in formulas: what the grammar derives closes each bracket that it opens.
-/

namespace Reckon.Formula

variable {registry : Registry} {tokens : Array String} {start middle stop : Nat}

/-- Behind each opening bracket between two positions there is a closing one before the second. -/
def Shut (tokens : Array String) (start stop : Nat) : Prop :=
  ∀ position, start ≤ position → position < stop → tokens[position]? = some "[" →
    ∃ closing, position < closing ∧ closing < stop ∧ tokens[closing]? = some "]"

theorem Shut.refl : Shut tokens start start := by
  intro position least most
  omega

theorem Shut.append (front : Shut tokens start middle) (back : Shut tokens middle stop)
    (forward : middle ≤ stop) : Shut tokens start stop := by
  intro position least most opened
  rcases Nat.lt_or_ge position middle with before | after
  · obtain ⟨closing, behind, inside, closed⟩ := front position least before opened
    exact ⟨closing, behind, by omega, closed⟩
  · exact back position after most opened

theorem Shut.single (other : tokens[start]? ≠ some "[") : Shut tokens start (start + 1) := by
  intro position least most opened
  have same : position = start := by omega
  exact absurd (same ▸ opened) other

theorem Shut.token {token : String} (here : tokens[start]? = some token) (other : token ≠ "[") :
    Shut tokens start (start + 1) := by
  refine Shut.single ?_
  rw [here]
  exact fun same => other (Option.some.inj same)

/-- How a phrase shuts brackets.  The token of a unary factor need not be the one that is there, but
it may not hide a bracket. -/
def Phrase.Shuts (tokens : Array String) (start stop : Nat) : Phrase → Prop
  | .unary token _ => (tokens[start]? = some "[" → token = "[") → Shut tokens start stop
  | .elements .. => Shut tokens start stop ∧ tokens[stop - 1]? = some "]"
  | _ => Shut tokens start stop

variable (binary : registry.operator? "[" = none) (unary : registry.unaryOperator? "[" = none)

include unary in
theorem role_bracket : role registry "[" = .array := by
  simp [role, unary]
  rfl

include unary in
theorem shut_of_role {token : String} {kind : Role} (found : role registry token = kind)
    (other : kind ≠ .array) (seen : tokens[start]? = some "[" → token = "[") :
    Shut tokens start (start + 1) := by
  refine Shut.single fun here => other ?_
  rw [← found, seen here, role_bracket unary]

include binary unary

theorem Derives.shuts {phrase : Phrase} (derived : Derives registry tokens phrase start stop) :
    phrase.Shuts tokens start stop := by
  induction derived with
  | expression here first rest firstShuts restShuts =>
      refine Shut.append (firstShuts fun opened => ?_) restShuts rest.forward
      exact Option.some.inj (here.symm.trans opened)
  | loose => exact Shut.refl
  | tight here registered tight operand rest operandShuts restShuts =>
      have forward := operand.forward
      simp only [Phrase.least] at forward
      have front : Shut tokens _ _ := Shut.token here (by
        rintro rfl
        rw [binary] at registered
        cases registered)
      exact (front.append operandShuts (by omega)).append restShuts rest.forward
  | unaryOperator kind more inner innerShuts =>
      have forward := inner.forward
      intro seen
      refine (shut_of_role unary kind (by simp) seen).append (innerShuts fun opened => ?_)
        (by omega)
      exact Option.some.inj (more.symm.trans opened)
  | parentheses kind inner closed innerShuts =>
      have forward := inner.forward
      intro seen
      have front := (shut_of_role unary kind (by simp) seen).append innerShuts (by omega)
      exact front.append (Shut.token closed (by decide)) (by omega)
  | literal kind | path kind | name kind => exact shut_of_role unary kind (by simp)
  | @array token whole start stop kind rest restShuts =>
      have forward := rest.forward
      simp only [Phrase.least] at forward
      intro seen position least most opened
      rcases Nat.lt_or_eq_of_le least with after | rfl
      · exact restShuts.1 position after most opened
      · exact ⟨stop - 1, by omega, by omega, restShuts.2⟩
  | object kind rest restShuts =>
      have forward := rest.forward
      intro seen
      exact (shut_of_role unary kind (by simp) seen).append restShuts (by omega)
  | call kind opened rest restShuts =>
      have forward := rest.forward
      intro seen
      refine (shut_of_role unary kind (by simp) seen).append ?_ (by omega)
      exact (Shut.token opened (by decide)).append restShuts (by omega)
  | lastElement closed => exact ⟨Shut.token closed (by decide), closed⟩
  | element more first separated rest firstShuts restShuts =>
      have forward := rest.forward
      refine ⟨?_, restShuts.2⟩
      rcases separated with ⟨comma, -, rfl⟩ | ⟨-, rfl⟩
      · exact (firstShuts.append (Shut.token comma (by decide)) (by omega)).append restShuts.1
          (by omega)
      · exact firstShuts.append restShuts.1 (by omega)
  | lastEntry first closed firstShuts =>
      exact firstShuts.append (Shut.token closed (by decide)) (by omega)
  | moreEntries first separated rest firstShuts restShuts =>
      have forward := rest.forward
      exact (firstShuts.append (Shut.token separated (by decide)) (by omega)).append restShuts
        (by omega)
  | keyed here plain identifier colon follows inner innerShuts =>
      have forward := inner.forward
      refine Shut.append (Shut.token here ?_) ?_ (by omega)
      · rintro rfl
        exact absurd identifier (by decide)
      · exact (Shut.token colon (by decide)).append innerShuts (by omega)
  | spread here spread first rest firstShuts restShuts =>
      refine Shut.append (firstShuts fun opened => ?_) restShuts rest.forward
      have same := Option.some.inj (here.symm.trans opened)
      subst same
      cases spread
  | lastArgument closed => exact Shut.token closed (by decide)
  | argument more first separated rest firstShuts restShuts =>
      have forward := rest.forward
      rcases separated with ⟨comma, -, rfl⟩ | ⟨-, rfl⟩
      · exact (firstShuts.append (Shut.token comma (by decide)) (by omega)).append restShuts
          (by omega)
      · exact firstShuts.append restShuts (by omega)

end Reckon.Formula
