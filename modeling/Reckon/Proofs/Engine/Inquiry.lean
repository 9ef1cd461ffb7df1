import Mathlib.Logic.Function.Basic
import Reckon.Proofs.Formula.Finished
import Reckon.Proofs.Grammar.Families

/-!
What an evaluation asks of the evaluations inside it.  It asks for their outcomes one after another,
and the first fault among these is its own.
-/

namespace Reckon

open Outcome Parse Production

/-- A text to evaluate, and the bindings that it sees. -/
structure Request where
  text : String
  bindings : Table Value

abbrev Answers := Request → Outcome

namespace Answers

/-- Other answers that are the same where these are finished. -/
def Extends (answers others : Answers) : Prop :=
  ∀ request, Finished (answers request) → others request = answers request

def completed (answers : Answers) : Answers := fun request =>
  match answers request with
  | .error .unfinished => .ok .null
  | other => other

theorem finished_completed (answers : Answers) (request : Request) :
    Finished (answers.completed request) := by
  unfold completed
  split
  · exact finished_ok _
  · assumption

theorem extends_completed (answers : Answers) : answers.Extends answers.completed := by
  intro request finished
  unfold completed
  split
  · rename_i missing
    exact absurd missing finished
  · rfl

open Classical in
noncomputable def replace (answers : Answers) (request : Request) (answer : Outcome) : Answers :=
  Function.update answers request answer

variable {answers others : Answers} {request : Request} {answer : Outcome}

@[simp]
theorem replace_self : answers.replace request answer request = answer := by
  simp [replace]

@[simp]
theorem replace_other {inner : Request} (other : inner ≠ request) :
    answers.replace request answer inner = answers inner := by
  simp [replace, other]

theorem Extends.replace_missing (wider : answers.Extends others)
    (missing : answers request = .error .unfinished) (answer : Outcome) :
    answers.Extends (others.replace request answer) := by
  intro inner finished
  have other : inner ≠ request := by
    rintro rfl
    exact finished missing
  rw [replace_other other]
  exact wider inner finished

theorem Extends.replace_both (wider : answers.Extends others) :
    (answers.replace request answer).Extends (others.replace request answer) := by
  intro inner finished
  by_cases same : inner = request
  · simp [same]
  · rw [replace_other same] at finished ⊢
    rw [replace_other same]
    exact wider inner finished

end Answers

/-- A result that asks for answers one after another and ends with the first fault among them. -/
inductive Inquiry {α : Type} : (Answers → Except Fault α) → Prop
  | settled (result : Except Fault α) : Inquiry fun _ => result
  | ask (request : Request) {next : Value → Answers → Except Fault α}
      (rest : ∀ value, Inquiry (next value)) :
      Inquiry fun answers => answers request >>= fun value => next value answers

namespace Inquiry

variable {α β : Type} {result : Answers → Except Fault α}

theorem answer (request : Request) : Inquiry fun answers => answers request := by
  have asked : Inquiry fun answers : Answers => answers request >>= Except.ok :=
    .ask request fun value => .settled (.ok value)
  simpa using asked

theorem bind {next : Answers → α → Except Fault β} (inquiry : Inquiry result)
    (rest : ∀ value, Inquiry fun answers => next answers value) :
    Inquiry fun answers => result answers >>= next answers := by
  induction inquiry with
  | settled result =>
      cases result with
      | ok value => exact rest value
      | error fault => exact .settled (.error fault)
  | ask request _ ih =>
      have asked := Inquiry.ask request ih
      simpa only [bind_assoc] using asked

theorem extends_finished (inquiry : Inquiry result) {answers others : Answers}
    (wider : answers.Extends others) (finished : Finished (result answers)) :
    result others = result answers := by
  induction inquiry with
  | settled _ => rfl
  | ask request _ ih =>
      rcases answered : answers request with fault | value
      · have asked : Finished (answers request) := by
          intro missing
          simp [missing] at finished
          exact finished rfl
        simp [wider request asked, answered]
      · have same : others request = .ok value :=
          (wider request (answered ▸ finished_ok value)).trans answered
        simp only [answered, ok_bind] at finished
        simpa [same, answered] using ih value finished

/-- What stays unfinished while answers come in waits for one of them that never comes, or for
none. -/
theorem waits (inquiry : Inquiry result) {answers : Nat → Answers}
    (growing : ∀ first second, first ≤ second → (answers first).Extends (answers second))
    (unfinished : ∀ index, result (answers index) = .error .unfinished) :
    (∃ request, (∀ index, answers index request = .error .unfinished) ∧
        ∃ index, ∀ fault,
          result ((answers index).replace request (.error fault)) = .error fault) ∨
      ∃ index, result (answers index).completed = .error .unfinished := by
  induction inquiry generalizing answers with
  | settled _ => exact .inr ⟨0, unfinished 0⟩
  | @ask request next _ ih =>
      by_cases missing : ∀ index, answers index request = .error .unfinished
      · exact .inl ⟨request, missing, 0, fun fault => by simp⟩
      · obtain ⟨start, answered⟩ := not_forall.mp missing
        rcases found : answers start request with fault | value
        · have raised := unfinished start
          simp only [found, error_bind] at raised
          cases raised
          exact absurd found answered
        -- From here on the answer is there, and what follows it is the inquiry that stays behind.
        · have later : ∀ index, answers (start + index) request = .ok value := by
            intro index
            have finished : Finished (answers start request) := answered
            exact (growing start _ (Nat.le_add_right _ _) request finished).trans found
          have behind : ∀ index, next value (answers (start + index)) = .error .unfinished := by
            intro index
            simpa [later index] using unfinished (start + index)
          have grows : ∀ first second, first ≤ second →
              (answers (start + first)).Extends (answers (start + second)) :=
            fun first second le => growing _ _ (Nat.add_le_add_left le start)
          rcases ih value grows behind with ⟨inner, never, index, fails⟩ | ⟨index, stuck⟩
          · have other : request ≠ inner := by
              rintro rfl
              have := never 0
              rw [later 0] at this
              cases this
            refine .inl ⟨inner, ?_, start + index, ?_⟩
            · intro index
              by_contra finished
              have same := growing index (start + index) (Nat.le_add_left _ _) inner finished
              exact finished (same.symm.trans (never index))
            · intro fault
              simpa [other, later index] using fails fault
          · refine .inr ⟨start + index, ?_⟩
            have finished : Finished (answers (start + index) request) :=
              later index ▸ finished_ok value
            simpa [Answers.extends_completed _ request finished, later index] using stuck

end Inquiry

/-- A result that waits for nothing but answers. -/
structure Consults {α : Type} (result : Answers → Except Fault α) : Prop where
  inquiry : Inquiry result
  finished : ∀ answers : Answers, (∀ request, Finished (answers request)) →
    Finished (result answers)

namespace Consults

variable {α β : Type} {result : Answers → Except Fault α}

theorem settled {result : Except Fault α} (finished : Finished result) : Consults fun _ => result :=
  ⟨.settled result, fun _ _ => finished⟩

theorem answer (request : Request) : Consults fun answers => answers request :=
  ⟨.answer request, fun _ complete => complete request⟩

theorem bind {next : Answers → α → Except Fault β} (first : Consults result)
    (rest : ∀ value, Consults fun answers => next answers value) :
    Consults fun answers => result answers >>= next answers where
  inquiry := first.inquiry.bind fun value => (rest value).inquiry
  finished := fun answers complete =>
    finished_bind (first.finished answers complete) fun value =>
      (rest value).finished answers complete

end Consults

/-- Functions that wait for nothing but the evaluations that they ask for. -/
def Registry.Consults (registry : Registry) : Prop :=
  ∀ name callee, registry.function? name = some callee → ∀ calls : Answers → Call,
    (∀ turn text extra, Reckon.Consults fun answers => (calls answers).evaluate turn text extra) →
      ∀ arguments, Reckon.Consults fun answers => callee (calls answers) arguments

/-- Reading and evaluating tokens asks for what the calls in them ask for. -/
theorem Frame.inquiry (frame : Frame) {calls : Answers → Nat → Callable → List Value → Outcome}
    (asks : ∀ name callee, frame.registry.function? name = some callee →
      ∀ position arguments, Inquiry fun answers => calls answers position callee arguments) :
    Inquiry fun answers => (frame.vary frame.limit (calls answers)).outcome := by
  have invariant : Invariant frame (fun _ => frame.limit) calls
      fun readers => ∀ position, Inquiry fun answers => ended (readers answers) position := {
    settled := fun _ _ _ => .settled _
    exhausted := fun _ => .settled _
    bind := by
      intro α β first next before after position
      simp only [ended_bind]
      exact (before position).bind fun found => after found.1 found.2
    nested := by
      intro depth inner within position
      simp only [nested, Frame.vary_limit]
      cases frame.limit with
      | none => exact within (depth + 1) position
      | some limit =>
          by_cases deep : limit < depth + 1
          · simpa only [if_pos deep] using .settled _
          · simpa only [if_neg deep] using within (depth + 1) position
    operated := fun _ _ => .settled _
    invoke := by
      rintro position callee arguments ⟨name, registered⟩ start
      simp only [ended_lift, map_eq]
      exact (asks name callee registered position arguments).bind fun _ => .settled _ }
  simp only [Frame.outcome, fst_eq_ended]
  exact (invariant.formula 0).bind fun _ => .settled _

end Reckon
