import Reckon.Proofs.Pattern.Progress

/-!
A pattern and the same pattern with a closing parenthesis behind it.  Readers do the same on both,
until one comes to the end: there the parenthesis may be taken for something else.
-/

namespace Reckon.Pattern

def Source.shut (source : Source) : Source := { source with rest := source.rest ++ [')'] }

/-- What is left of a pattern and of the pattern that was shut: the parenthesis is still there, or a
comment has swallowed it. -/
def Alike (source shut : Source) : Prop :=
  shut = source.shut ∨ (source.rest = [] ∧ shut = source)

/-- What a reader makes of a pattern and of the pattern that was shut.  Where only the latter has a
result, it has a property. -/
inductive Agree {α : Type} (late : α → Source → Prop) : Taken α → Taken α → Prop
  | none : Agree late none none
  | late {a : α} {shut : Source} (property : late a shut) : Agree late none (some (a, shut))
  | some {a : α} {source shut : Source} (alike : Alike source shut) :
      Agree late (some (a, source)) (some (a, shut))

def Never {α : Type} (_ : α) (_ : Source) : Prop := False

theorem Never.elim {α : Type} {a : α} {shut : Source} {goal : Prop} (never : Never a shut) : goal :=
  False.elim never

def AtEnd {α : Type} (_ : α) (shut : Source) : Prop := shut.rest = []

/-- Nothing is left of the pattern that was shut, or only the parenthesis. -/
def NearEnd {α : Type} (_ : α) (shut : Source) : Prop := shut.rest = [] ∨ shut.rest = [')']

namespace Agree

variable {α β : Type} {P : α → Source → Prop} {Q : β → Source → Prop} {taken shut : Taken α}

theorem mono {P' : α → Source → Prop} (agree : Agree P taken shut)
    (weaker : ∀ a shut, P a shut → P' a shut) : Agree P' taken shut := by
  cases agree with
  | none => exact .none
  | late property => exact .late (weaker _ _ property)
  | some alike => exact .some alike

theorem bind_mem {next next' : α × Source → Taken β} (agree : Agree P taken shut)
    (more : ∀ a source source', taken = Option.some (a, source) →
      shut = Option.some (a, source') → Alike source source' →
      Agree Q (next (a, source)) (next' (a, source')))
    (last : ∀ a source', shut = Option.some (a, source') → P a source' →
      Agree Q Option.none (next' (a, source'))) :
    Agree Q (taken.bind next) (shut.bind next') := by
  cases agree with
  | none => exact .none
  | late property => exact last _ _ rfl property
  | some alike => exact more _ _ _ rfl rfl alike

theorem bind {next next' : α × Source → Taken β} (agree : Agree P taken shut)
    (more : ∀ a source shut, Alike source shut → Agree Q (next (a, source)) (next' (a, shut)))
    (last : ∀ a shut, P a shut → Agree Q Option.none (next' (a, shut))) :
    Agree Q (taken.bind next) (shut.bind next') :=
  agree.bind_mem (fun a source shut _ _ alike => more a source shut alike)
    fun a shut _ property => last a shut property

theorem map {next : α × Source → β × Source} (agree : Agree P taken shut)
    (more : ∀ a source shut, Alike source shut →
      (next (a, source)).1 = (next (a, shut)).1 ∧ Alike (next (a, source)).2 (next (a, shut)).2)
    (last : ∀ a shut, P a shut → Q (next (a, shut)).1 (next (a, shut)).2) :
    Agree Q (taken.map next) (shut.map next) := by
  cases agree with
  | none => exact .none
  | late property => exact .late (last _ _ property)
  | @some a source shut alike =>
      obtain ⟨same, further⟩ := more a source shut alike
      rw [Option.map_some, Option.map_some]
      generalize next (a, source) = first at same further ⊢
      generalize next (a, shut) = second at same further ⊢
      obtain ⟨a, source⟩ := first
      obtain ⟨b, shut⟩ := second
      cases same
      exact .some further

theorem of_option {value? : Option α} {value : α → β} {source shut : Source}
    (alike : Alike source shut) :
    Agree Q (value?.map fun a => (value a, source)) (value?.map fun a => (value a, shut)) := by
  cases value? with
  | none => exact .none
  | some a => exact .some alike

theorem of_test {first second : Bool} {a : α} {source shut : Source} (same : first = second)
    (alike : Alike source shut) :
    Agree P (if first then Option.some (a, source) else Option.none)
      (if second then Option.some (a, shut) else Option.none) := by
  subst same
  cases first
  · exact .none
  · exact .some alike

theorem of_pair {first second : α × Source} (agree : first.1 = second.1 ∧ Alike first.2 second.2) :
    Agree P (Option.some first) (Option.some second) := by
  obtain ⟨a, source⟩ := first
  obtain ⟨b, shut⟩ := second
  obtain ⟨rfl, alike⟩ := agree
  exact .some alike

theorem refl (leaves : Leaves 0 taken) : Agree P taken taken := by
  match taken, leaves with
  | Option.none, _ => exact .none
  | Option.some (a, after), leaves =>
      exact .some (.inr ⟨List.length_eq_zero_iff.mp (Nat.le_zero.mp (leaves a after rfl)), rfl⟩)

end Agree

/-! ## Blanks and digits -/

section

variable {source shut : Source}

namespace Alike

theorem agree {α : Type} {P : α → Source → Prop} {read : Source → Taken α}
    (alike : Alike source shut) (leaves : ∀ source, Leaves source.rest.length (read source))
    (more : Agree P (read source) (read source.shut)) : Agree P (read source) (read shut) := by
  rcases alike with rfl | ⟨nothing, rfl⟩
  · exact more
  · refine .refl ?_
    have most := leaves shut
    rwa [nothing] at most

theorem verbose_eq (alike : Alike source shut) : shut.verbose = source.verbose := by
  rcases alike with rfl | ⟨-, rfl⟩ <;> rfl

theorem rest_eq {c : Char} {rest : List Char} (alike : Alike source shut)
    (here : source.rest = c :: rest) : shut = source.shut := by
  rcases alike with same | ⟨nothing, -⟩
  · exact same
  · cases here.symm.trans nothing

theorem next (alike : Alike source shut) : Alike source.next shut.next := by
  rcases alike with rfl | ⟨nothing, rfl⟩
  · obtain ⟨text, verbose, names⟩ := source
    cases text with
    | nil => exact .inr ⟨rfl, rfl⟩
    | cons c rest => exact .inl rfl
  · exact .inr ⟨congrArg List.tail nothing, rfl⟩

end Alike

/-- Unless it is the parenthesis, the next character is the same. -/
theorem Alike.head?_iff (alike : Alike source shut) {c : Char} (other : c ≠ ')') :
    shut.head? = some c ↔ source.head? = some c := by
  rcases alike with rfl | ⟨-, rfl⟩
  · obtain ⟨text, verbose, names⟩ := source
    cases text with
    | nil => simp [Source.shut, Source.head?, Ne.symm other]
    | cons d rest => rfl
  · rfl

theorem skipVerbose_shut (comment : Bool) (text : List Char) :
    Source.skipVerbose comment (text ++ [')']) = Source.skipVerbose comment text ++ [')'] ∨
      (Source.skipVerbose comment text = [] ∧
        Source.skipVerbose comment (text ++ [')']) = []) := by
  have blank : Text.isBlank ')' = false := by decide
  fun_induction Source.skipVerbose comment text with
  | case1 comment =>
      cases comment
      · exact .inl (by simp [Source.skipVerbose, blank])
      · exact .inr ⟨rfl, by simp [Source.skipVerbose]⟩
  | case2 c rest ih => simpa [Source.skipVerbose] using ih
  | case3 c rest blank ih => simpa [Source.skipVerbose, blank] using ih
  | case4 rest plain ih => simpa [Source.skipVerbose, plain] using ih
  | case5 c rest plain mark => simp [Source.skipVerbose, plain, mark]

theorem Alike.skip (alike : Alike source shut) : Alike source.skip shut.skip := by
  rcases alike with rfl | ⟨nothing, rfl⟩
  · obtain ⟨text, verbose, names⟩ := source
    cases verbose with
    | false => exact .inl rfl
    | true =>
        rcases skipVerbose_shut false text with same | ⟨nothing, swallowed⟩
        · exact .inl (congrArg (Source.mk · true names) same)
        · exact .inr ⟨nothing, congrArg (Source.mk · true names) (swallowed.trans nothing.symm)⟩
  · refine .inr ⟨?_, rfl⟩
    have most := length_skip_le shut
    rw [nothing] at most
    exact List.length_eq_zero_iff.mp (Nat.le_zero.mp most)

theorem Alike.nextSkip (alike : Alike source shut) : Alike source.nextSkip shut.nextSkip :=
  alike.next.skip

theorem takeSkipping_nil (here : source.rest = []) (test : Char → Bool) (fuel : Nat)
    (taken : List Char) : takeSkipping test fuel taken source = (taken.reverse, source) := by
  cases fuel with
  | zero => rfl
  | succ fuel => rw [takeSkipping, Source.head?, here, List.head?_nil]

theorem takeSkipping_cons {c : Char} {rest : List Char} (here : source.rest = c :: rest)
    (test : Char → Bool) (fuel : Nat) (taken : List Char) :
    takeSkipping test (fuel + 1) taken source =
      if test c then takeSkipping test fuel (c :: taken) source.nextSkip
      else (taken.reverse, source) := by
  rw [takeSkipping, Source.head?, here, List.head?_cons]

theorem rest_shut_nil (here : source.rest = []) : source.shut.rest = [')'] := by
  rw [Source.shut, here, List.nil_append]

theorem rest_shut_cons {c : Char} {rest : List Char} (here : source.rest = c :: rest) :
    source.shut.rest = c :: (rest ++ [')']) := by
  rw [Source.shut, here, List.cons_append]

theorem Alike.front (alike : Alike source shut) :
    (∃ c rest, source.rest = c :: rest ∧ shut.rest = c :: (rest ++ [')'])) ∨
      (source.rest = [] ∧ shut.rest = [')']) ∨ (source.rest = [] ∧ shut.rest = []) := by
  rcases alike with rfl | ⟨nothing, rfl⟩
  · cases here : source.rest with
    | nil => exact .inr (.inl ⟨rfl, rest_shut_nil here⟩)
    | cons c rest => exact .inl ⟨c, rest, rfl, rest_shut_cons here⟩
  · exact .inr (.inr ⟨nothing, nothing⟩)

/-- At its end a pattern that was shut has no more to take than the parenthesis. -/
theorem takeSkipping_end (test : Char → Bool) (closing : test ')' = false)
    (alike : Alike source shut) (here : source.rest = []) (fuel : Nat) (taken : List Char) :
    takeSkipping test fuel taken shut = (taken.reverse, shut) := by
  rcases alike with rfl | ⟨-, rfl⟩
  · cases fuel with
    | zero => rfl
    | succ fuel =>
        rw [takeSkipping_cons (rest_shut_nil here), closing, if_neg Bool.false_ne_true]
  · exact takeSkipping_nil here ..

theorem takeSkipping_alike (test : Char → Bool) (closing : test ')' = false)
    (alike : Alike source shut) {fuel more : Nat} (enough : source.rest.length ≤ fuel)
    (further : shut.rest.length ≤ more) (taken : List Char) :
    (takeSkipping test fuel taken source).1 = (takeSkipping test more taken shut).1 ∧
      Alike (takeSkipping test fuel taken source).2 (takeSkipping test more taken shut).2 := by
  induction fuel generalizing more taken source shut with
  | zero =>
      have here := List.length_eq_zero_iff.mp (Nat.le_zero.mp enough)
      rw [takeSkipping_end test closing alike here]
      exact ⟨rfl, alike⟩
  | succ fuel ih =>
      cases here : source.rest with
      | nil =>
          rw [takeSkipping_nil here, takeSkipping_end test closing alike here]
          exact ⟨rfl, alike⟩
      | cons c rest =>
          cases alike.rest_eq here
          have mark := rest_shut_cons here
          rw [mark, List.length_cons] at further
          obtain ⟨more, rfl⟩ := Nat.exists_eq_add_of_le' (Nat.le_of_add_left_le further)
          rw [takeSkipping_cons here, takeSkipping_cons mark]
          by_cases passes : test c = true
          · rw [if_pos passes, if_pos passes]
            have left := length_nextSkip_le source
            have right := length_nextSkip_le source.shut
            rw [here, List.length_cons] at left enough
            rw [mark, List.length_cons] at right
            exact ih alike.nextSkip (by omega) (by omega) (c :: taken)
          · rw [if_neg passes, if_neg passes]
            exact ⟨rfl, alike⟩

theorem takeSkipping_past_end (test : Char → Bool) (closing : test ')' = true)
    (alike : Alike source shut) (here : source.rest = []) {fuel : Nat}
    (enough : shut.rest.length ≤ fuel) (taken : List Char) :
    (takeSkipping test fuel taken shut).2.rest = [] := by
  rcases alike with rfl | ⟨-, rfl⟩
  · have mark := rest_shut_nil here
    rw [mark] at enough
    obtain ⟨fuel, rfl⟩ := Nat.exists_eq_add_of_le' enough
    have nothing : source.shut.nextSkip.rest = [] := by
      have left := length_nextSkip_le source.shut
      rw [mark, List.length_singleton] at left
      exact List.length_eq_zero_iff.mp (Nat.le_zero.mp left)
    rw [List.length_singleton, takeSkipping_cons mark, closing, if_pos rfl,
      takeSkipping_nil nothing]
    exact nothing
  · rw [takeSkipping_nil here]
    exact here

/-- Characters of which the closing parenthesis is one are taken alike up to one that is none.  If
there is no such character, nothing is left of either pattern. -/
theorem takeSkipping_alike_or_end (test : Char → Bool) (closing : test ')' = true)
    (alike : Alike source shut) {fuel more : Nat} (enough : source.rest.length ≤ fuel)
    (further : shut.rest.length ≤ more) (taken : List Char) :
    ((takeSkipping test fuel taken source).2.rest = [] ∧
        (takeSkipping test more taken shut).2.rest = []) ∨
      ((takeSkipping test fuel taken source).1 = (takeSkipping test more taken shut).1 ∧
        ∃ c rest, (takeSkipping test fuel taken source).2.rest = c :: rest ∧
          Alike (takeSkipping test fuel taken source).2 (takeSkipping test more taken shut).2) := by
  induction fuel generalizing more taken source shut with
  | zero =>
      have here := List.length_eq_zero_iff.mp (Nat.le_zero.mp enough)
      exact .inl ⟨here, takeSkipping_past_end test closing alike here further taken⟩
  | succ fuel ih =>
      cases here : source.rest with
      | nil =>
          rw [takeSkipping_nil here]
          exact .inl ⟨here, takeSkipping_past_end test closing alike here further taken⟩
      | cons c rest =>
          cases alike.rest_eq here
          have mark := rest_shut_cons here
          rw [mark, List.length_cons] at further
          obtain ⟨more, rfl⟩ := Nat.exists_eq_add_of_le' (Nat.le_of_add_left_le further)
          rw [takeSkipping_cons here, takeSkipping_cons mark]
          by_cases passes : test c = true
          · rw [if_pos passes, if_pos passes]
            have left := length_nextSkip_le source
            have right := length_nextSkip_le source.shut
            rw [here, List.length_cons] at left enough
            rw [mark, List.length_cons] at right
            exact ih alike.nextSkip (by omega) (by omega) (c :: taken)
          · rw [if_neg passes, if_neg passes]
            exact .inr ⟨rfl, c, rest, here, alike⟩

/-! ## Counts and escapes -/

theorem dropWhile_shut {test : Char → Bool} (closing : test ')' = false) (text : List Char) :
    (text ++ [')']).dropWhile test = text.dropWhile test ++ [')'] := by
  induction text with
  | nil => simp [closing]
  | cons c rest ih => by_cases passes : test c = true <;> simp [passes, ih]

theorem readCount_shut (alike : Alike source shut) :
    Agree Never (readCount source) (readCount shut) := by
  refine alike.agree readCount_leaves ?_
  have blank : Text.isBlank ')' = false := by decide
  have start : Alike { source with rest := source.rest.dropWhile Text.isBlank }
      { source.shut with rest := source.shut.rest.dropWhile Text.isBlank } :=
    .inl (congrArg (Source.mk · source.verbose source.names) (dropWhile_shut blank source.rest))
  obtain ⟨same, figures⟩ :=
    takeSkipping_alike Char.isDigit (by decide) start (Nat.le_refl _) (Nat.le_refl _) []
  obtain ⟨-, blanks⟩ :=
    takeSkipping_alike Text.isBlank blank figures (Nat.le_refl _) (Nat.le_refl _) []
  unfold readCount
  dsimp only at same blanks ⊢
  rw [same]
  split
  · exact .some blanks
  · split
    · exact .some blanks
    · exact .none

theorem readHexDigits_shut (count : Nat) (figures : List Char) (alike : Alike source shut) :
    Agree Never (readHexDigits count figures source) (readHexDigits count figures shut) := by
  induction count generalizing figures source shut with
  | zero => exact .some alike
  | succ count ih =>
      refine alike.agree (fun source => readHexDigits_leaves source _ _) ?_
      unfold readHexDigits Source.head?
      cases here : source.rest with
      | nil =>
          rw [rest_shut_nil here]
          exact .none
      | cons c rest =>
          rw [rest_shut_cons here]
          simp only [List.head?_cons]
          split
          · exact ih _ (Alike.nextSkip (.inl rfl))
          · exact .none

/-- The text between braces, which is missing or the same on both sides. -/
theorem takeSkipping_braces (alike : Alike source shut) {fuel more : Nat}
    (enough : source.rest.length ≤ fuel) (further : shut.rest.length ≤ more) :
    ((takeSkipping (· != '\x7d') fuel [] source).2.rest.isEmpty = true ∧
        (takeSkipping (· != '\x7d') more [] shut).2.rest.isEmpty = true) ∨
      ((takeSkipping (· != '\x7d') fuel [] source).2.rest.isEmpty = false ∧
        (takeSkipping (· != '\x7d') more [] shut).2.rest.isEmpty = false ∧
        (takeSkipping (· != '\x7d') fuel [] source).1 =
          (takeSkipping (· != '\x7d') more [] shut).1 ∧
        Alike (takeSkipping (· != '\x7d') fuel [] source).2
          (takeSkipping (· != '\x7d') more [] shut).2) := by
  rcases takeSkipping_alike_or_end (· != '\x7d') (by decide) alike enough further [] with
    ⟨left, right⟩ | ⟨same, c, rest, here, after⟩
  · exact .inl ⟨List.isEmpty_iff.mpr left, List.isEmpty_iff.mpr right⟩
  · refine .inr ⟨by rw [here]; rfl, ?_, same, after⟩
    rw [after.rest_eq here, rest_shut_cons here]
    rfl

theorem readHex_shut (width : Nat) (alike : Alike source shut) :
    Agree Never (readHex (width + 1) source) (readHex (width + 1) shut) := by
  refine alike.agree (fun source => readHex_leaves source _) ?_
  have whole : Alike source source.shut := .inl rfl
  have right := length_nextSkip_le source.shut
  unfold readHex Source.head?
  cases here : source.rest with
  | nil =>
      have figures : readHexDigits (width + 1) [] source.shut = none := by
        simp [readHexDigits, Source.head?, rest_shut_nil here, Text.hexValue?]
      rw [rest_shut_nil here]
      simp only [List.head?_cons, figures]
      exact .none
  | cons c rest =>
      have left := length_nextSkip_le source
      have mark := rest_shut_cons here
      rw [here] at left
      rw [mark] at right ⊢
      simp only [List.head?_cons]
      split
      · cases ‹some _ = none›
      · rcases takeSkipping_braces whole.nextSkip (Nat.le_trans left (Nat.sub_le _ _))
          (Nat.le_trans right (Nat.sub_le _ _)) with ⟨first, second⟩ | ⟨first, second, same, after⟩
        · simp only [first, second, Bool.true_or, if_true]
          exact .none
        · simp only [first, second, same, Bool.false_or]
          split
          · exact .none
          · exact .of_option after.nextSkip
      · exact (readHexDigits_shut _ [] whole).bind (fun _ _ _ after => .of_option after)
          (fun _ _ never => never.elim)

theorem readProperty_shut (alike : Alike source shut) :
    Agree AtEnd (readProperty source) (readProperty shut) := by
  refine alike.agree (fun source => (readProperty_leaves source).mono (Nat.sub_le _ _)) ?_
  have whole : Alike source source.shut := .inl rfl
  have right := length_nextSkip_le source.shut
  unfold readProperty Source.head?
  cases here : source.rest with
  | nil =>
      have mark := rest_shut_nil here
      rw [mark] at right ⊢
      exact .late (List.length_eq_zero_iff.mp (Nat.le_zero.mp right))
  | cons c rest =>
      have left := length_nextSkip_le source
      have mark := rest_shut_cons here
      rw [here] at left
      rw [mark] at right ⊢
      simp only [List.head?_cons]
      split
      · exact .none
      · exact .none
      · rcases takeSkipping_braces whole.nextSkip (Nat.le_trans left (Nat.sub_le _ _))
          (Nat.le_trans right (Nat.sub_le _ _)) with ⟨first, second⟩ | ⟨first, second, same, after⟩
        · simp only [first, second, if_true]
          exact .none
        · simp only [first, second, same]
          exact .some after.next
      · exact .some whole.nextSkip

/-- An opening brace with nothing behind it but the parenthesis of the pattern that was shut. -/
def Braced (shut : Source) : Prop :=
  (∃ rest, shut.rest = '\x7b' :: rest) ∧ shut.nextSkip.rest = [')']

theorem readWordAssertion_shut (alike : Alike source shut) {rest : List Char}
    (here : source.rest = '\x7b' :: rest) :
    Agree (fun _ shut => Braced shut) (readWordAssertion source) (readWordAssertion shut) := by
  cases alike.rest_eq here
  have inner := alike.nextSkip
  unfold readWordAssertion
  dsimp only
  rcases inner.front with ⟨c, text, start, mark⟩ | ⟨start, mark⟩ | ⟨start, mark⟩
  · obtain ⟨names, after⟩ := takeSkipping_alike (fun c => c.isAlpha || decide (c = '-'))
      (by decide) inner (Nat.le_refl _) (Nat.le_refl _) []
    simp only [start, mark] at names after
    simp only [Source.head?, start, mark, List.head?_cons, names]
    split
    · exact .some alike
    · generalize takeSkipping _ (c :: text).length [] source.nextSkip = left at names after ⊢
      generalize takeSkipping _ (c :: (text ++ [')'])).length [] source.shut.nextSkip = right
        at names after ⊢
      rcases after.front with ⟨d, more, last, mark⟩ | ⟨last, mark⟩ | ⟨last, mark⟩
      · rw [last, mark, List.head?_cons, List.head?_cons]
        split <;> first | exact .some after.next | exact .none
      · simp only [last, mark, List.head?_nil, List.head?_cons]
        exact .none
      · simp only [last, mark, List.head?_nil]
        exact .none
  · simp only [Source.head?, start, mark, List.head?_nil, List.head?_cons]
    exact .late ⟨⟨_, rest_shut_cons here⟩, mark⟩
  · simp only [Source.head?, start, mark, List.head?_nil]
    exact .none

/-- A late result of an escape comes at the end, or is an assertion before a brace. -/
def EndsEscape (escape : Escape) (shut : Source) : Prop :=
  shut.rest = [] ∨ ∃ kind, escape = .assertion kind ∧ Braced shut

theorem readEscape_shut (alike : Alike source shut) :
    Agree EndsEscape (readEscape source) (readEscape shut) := by
  refine alike.agree (fun source => (readEscape_leaves source).mono (Nat.sub_le _ _)) ?_
  have inner : Alike source.nextSkip source.shut.nextSkip := Alike.nextSkip (.inl rfl)
  unfold readEscape
  cases here : source.rest with
  | nil =>
      rw [rest_shut_nil here]
      exact .late (.inl rfl)
  | cons c rest =>
      have after : Alike { source with rest } { source.shut with rest := rest ++ [')'] } := .inl rfl
      rw [rest_shut_cons here]
      dsimp only
      split
      · exact (readHex_shut 1 inner).map (fun _ _ _ after => ⟨rfl, after⟩)
          (fun _ _ never => never.elim)
      · exact (readHex_shut 3 inner).map (fun _ _ _ after => ⟨rfl, after⟩)
          (fun _ _ never => never.elim)
      · exact (readHex_shut 7 inner).map (fun _ _ _ after => ⟨rfl, after⟩)
          (fun _ _ never => never.elim)
      · exact (readProperty_shut inner).map (fun _ _ _ after => ⟨rfl, after⟩) fun _ _ => .inl
      · exact (readProperty_shut inner).map (fun _ _ _ after => ⟨rfl, after⟩) fun _ _ => .inl
      all_goals first | exact .some after | skip
      · cases behind : rest with
        | nil =>
            simp only [Source.head?, List.nil_append, List.head?_nil, List.head?_cons]
            subst behind
            exact .some after
        | cons d text =>
            subst behind
            by_cases brace : d = '\x7b'
            · subst brace
              simp only [Source.head?, List.cons_append, List.head?_cons, if_true]
              exact (readWordAssertion_shut after rfl).map (fun _ _ _ after => ⟨rfl, after⟩)
                fun kind _ braced => .inr ⟨kind, rfl, braced⟩
            · simp only [Source.head?, List.cons_append, List.head?_cons, Option.some.injEq, brace,
                if_false]
              exact .some after
      · split
        · exact .some after
        · exact .none

end

end Reckon.Pattern
