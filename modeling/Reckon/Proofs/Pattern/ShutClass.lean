import Reckon.Proofs.Pattern.Shut

/-!
Classes of characters in a pattern and in the same pattern with a closing parenthesis behind it.
The parenthesis may become an item of a class, but then the class is never closed.
-/

namespace Reckon.Pattern

section

variable {source shut : Source}

theorem readClassItem_shut (alike : Alike source shut) :
    Agree EndsEscape (readClassItem source) (readClassItem shut) := by
  refine alike.agree (fun source => (readClassItem_leaves source).mono (Nat.sub_le _ _)) ?_
  unfold readClassItem
  cases here : source.rest with
  | nil =>
      rw [rest_shut_nil here]
      exact .late (.inl rfl)
  | cons c rest =>
      have after : Alike { source with rest } { source.shut with rest := rest ++ [')'] } := .inl rfl
      rw [rest_shut_cons here]
      by_cases slash : c = '\\'
      · subst slash
        exact readEscape_shut after
      · simp only
        exact .some after

theorem peekSkip_of_plain {c : Char} {rest : List Char} (verbose : source.verbose = true)
    (here : Text.trimFront source.rest.tail = c :: rest) (plain : c ≠ '#') :
    peekSkip source = some c := by
  rw [peekSkip, if_pos verbose, here]
  split
  · cases ‹c :: rest = _›
    exact absurd rfl plain
  · rfl

/-- The next character but one, of a pattern that was shut perhaps the parenthesis. -/
theorem peekSkip_shut {c : Char} {rest : List Char} (here : source.rest = c :: rest) :
    peekSkip source.shut = peekSkip source ∨
      (peekSkip source = none ∧ peekSkip source.shut = some ')') := by
  have blank : Text.isBlank ')' = false := by decide
  have trim (text : List Char) : Text.trimFront (text ++ [')']) = Text.trimFront text ++ [')'] :=
    dropWhile_shut blank text
  have head (text : List Char) : (text ++ [')']).head? = text.head? ∨
      (text.head? = none ∧ (text ++ [')']).head? = some ')') := by
    cases text with
    | nil => exact .inr ⟨rfl, rfl⟩
    | cons => exact .inl rfl
  obtain ⟨text, verbose, names⟩ := source
  cases here
  cases verbose with
  | false => exact head rest
  | true =>
      have shut : Text.trimFront (Source.shut ⟨c :: rest, true, names⟩).rest.tail =
          Text.trimFront rest ++ [')'] := trim rest
      cases front : Text.trimFront rest with
      | nil =>
          rw [front] at shut
          refine .inr ⟨?_, peekSkip_of_plain rfl shut (by decide)⟩
          simp [peekSkip, front]
      | cons d more =>
          rw [front] at shut
          by_cases mark : d = '#'
          · subst mark
            simp only [peekSkip, Source.shut, List.cons_append, List.tail_cons, trim, front,
              if_true]
            exact head _
          · have left : peekSkip ⟨c :: rest, true, names⟩ = some d :=
                peekSkip_of_plain rfl front mark
            exact .inl ((peekSkip_of_plain rfl shut mark).trans left.symm)

theorem readClassRange_shut (alike : Alike source shut) :
    Agree NearEnd (readClassRange source) (readClassRange shut) := by
  refine alike.agree (fun source => (readClassRange_leaves source).mono (Nat.sub_le _ _)) ?_
  unfold readClassRange
  refine (readClassItem_shut (.inl rfl)).bind ?_ ?_
  · intro first source shut alike
    have skipped := alike.skip
    dsimp only
    rcases skipped.front with ⟨c, rest, here, mark⟩ | ⟨here, mark⟩ | ⟨here, mark⟩
    · have tests (d : Char) (other : d ≠ ')') :
          peekSkip shut.skip = some d ↔ peekSkip source.skip = some d := by
        rw [skipped.rest_eq here]
        rcases peekSkip_shut here with equal | ⟨nothing, closing⟩
        · rw [equal]
        · simp [nothing, closing, Ne.symm other]
      simp only [Source.head?, here, mark, List.head?_cons, tests ']' (by decide),
        tests '-' (by decide)]
      split
      · exact .of_option skipped
      · refine (readClassItem_shut skipped.nextSkip).bind ?_ ?_
        · intro last source shut after
          dsimp only
          split
          · split
            · exact .some after
            · exact .none
          · exact .none
        · intro last shut ends
          dsimp only
          split
          · split
            · rcases ends with nothing | ⟨kind, other, -⟩
              · exact .late (.inl nothing)
              · cases other
            · exact .none
          · exact .none
    · simp only [Source.head?, here, List.head?_nil, mark, List.head?_cons]
      rw [if_pos (by simp)]
      cases first.toClass? with
      | none => exact .none
      | some tree => exact .late (.inr mark)
    · simp only [Source.head?, here, mark, List.head?_nil]
      exact .none
  · rintro escape shut (nothing | ⟨kind, rfl, -⟩)
    · have left := length_skip_le shut
      rw [nothing] at left
      have skipped := List.length_eq_zero_iff.mp (Nat.le_zero.mp left)
      simp only [Source.head?, skipped, List.head?_nil]
      exact .none
    · dsimp only
      split
      · exact .none
      · split
        · exact .none
        · cases readClassItem shut.skip.nextSkip <;> exact .none

theorem isPrefixOf_shut {mark : List Char} (free : ')' ∉ mark) (text : List Char) :
    mark.isPrefixOf (text ++ [')']) = mark.isPrefixOf text := by
  induction mark generalizing text with
  | nil => cases text <;> rfl
  | cons c mark ih =>
      have first : ')' ≠ c := fun same => free (same ▸ List.mem_cons_self)
      have others : ')' ∉ mark := fun member => free (List.mem_cons_of_mem _ member)
      cases text with
      | nil => simp [List.isPrefixOf, Ne.symm first]
      | cons d text => simp [List.isPrefixOf, ih others]

theorem drop?_shut {mark : String} (free : ')' ∉ mark.toList) (source : Source) :
    source.shut.drop? mark = (source.drop? mark).map Source.shut := by
  unfold Source.drop?
  rw [Source.shut, isPrefixOf_shut free]
  split
  · rename_i starts
    have inside := (List.isPrefixOf_iff_prefix.mp starts).length_le
    rw [Option.map_some, Source.shut, List.drop_append_of_le_length inside]
  · rfl

/-- A name up to a mark is the same with the parenthesis behind the pattern.  Without a mark nothing
is left on either side. -/
theorem takeWhile_shut (test : Char → Bool) (closing : test ')' = true) (text : List Char) :
    ((text ++ [')']).takeWhile test = text.takeWhile test ∧
        ∃ c rest, text.drop (text.takeWhile test).length = c :: rest ∧
          (text ++ [')']).drop (text.takeWhile test).length = c :: (rest ++ [')'])) ∨
      (text.drop (text.takeWhile test).length = [] ∧
        (text ++ [')']).drop ((text ++ [')']).takeWhile test).length = []) := by
  induction text with
  | nil => exact .inr (by simp [closing])
  | cons c rest ih =>
      by_cases passes : test c = true
      · simpa [passes] using ih
      · exact .inl (by simp [passes])

theorem readAsciiClass?_shut (alike : Alike source shut) :
    Agree Never (readAsciiClass? source) (readAsciiClass? shut) := by
  refine alike.agree (fun source => (readAsciiClass?_leaves source).mono (Nat.sub_le _ _)) ?_
  unfold readAsciiClass?
  rw [drop?_shut (by decide)]
  cases source.drop? "[:" with
  | none => exact .none
  | some inner =>
      rw [Option.bind_some, Option.map_some, Option.bind_some, drop?_shut (by decide)]
      have named (start : Source) (negated : Bool) : Agree Never
          ((({ start with rest := start.rest.drop (start.rest.takeWhile (· != ':')).length } :
            Source).drop? ":]").bind fun after => (asciiClassOfName?
              (String.ofList (start.rest.takeWhile (· != ':')))).map fun kind =>
                (ClassTree.ascii kind negated, after))
          ((({ start.shut with
            rest := start.shut.rest.drop (start.shut.rest.takeWhile (· != ':')).length } :
              Source).drop? ":]").bind fun after => (asciiClassOfName?
                (String.ofList (start.shut.rest.takeWhile (· != ':')))).map fun kind =>
                  (ClassTree.ascii kind negated, after)) := by
        have closing : (')' != ':') = true := by decide
        have text : start.shut.rest = start.rest ++ [')'] := rfl
        rw [text]
        rcases takeWhile_shut (· != ':') closing start.rest with
          ⟨name, c, rest, left, right⟩ | ⟨left, right⟩
        · have behind : ({ start.shut with rest := c :: (rest ++ [')']) } : Source) =
              ({ start with rest := c :: rest } : Source).shut := rfl
          rw [name, left, right, behind, drop?_shut (by decide)]
          cases ({ start with rest := c :: rest } : Source).drop? ":]" with
          | none => exact .none
          | some after => exact .of_option (.inl rfl)
        · rw [left, right]
          exact .none
      cases inner.drop? "^" with
      | none => exact named inner false
      | some rest => exact named rest true

theorem readLeadingHyphens_other (other : source.head? ≠ some '-') (fuel : Nat)
    (items : List ClassTree) : readLeadingHyphens fuel items source = (items, source) := by
  cases fuel with
  | zero => rfl
  | succ fuel => rw [readLeadingHyphens, if_neg other]

theorem readLeadingHyphens_alike (alike : Alike source shut) {fuel more : Nat}
    (enough : source.rest.length ≤ fuel) (further : shut.rest.length ≤ more)
    (items : List ClassTree) :
    (readLeadingHyphens fuel items source).1 = (readLeadingHyphens more items shut).1 ∧
      Alike (readLeadingHyphens fuel items source).2 (readLeadingHyphens more items shut).2 := by
  have same := alike.head?_iff (show '-' ≠ ')' by decide)
  induction fuel generalizing more items source shut with
  | zero =>
      have here := List.length_eq_zero_iff.mp (Nat.le_zero.mp enough)
      have other : source.head? ≠ some '-' := by simp [Source.head?, here]
      rw [readLeadingHyphens_other other, readLeadingHyphens_other (mt same.mp other)]
      exact ⟨rfl, alike⟩
  | succ fuel ih =>
      by_cases hyphen : source.head? = some '-'
      · obtain ⟨rest, here⟩ := List.head?_eq_some_iff.mp hyphen
        have hyphen' := same.mpr hyphen
        cases alike.rest_eq here
        have left := length_nextSkip_le source
        have right := length_nextSkip_le source.shut
        rw [here, List.length_cons] at enough left
        rw [rest_shut_cons here, List.length_cons] at further right
        obtain ⟨more, rfl⟩ := Nat.exists_eq_add_of_le' (Nat.le_of_add_left_le further)
        rw [readLeadingHyphens, readLeadingHyphens, if_pos hyphen, if_pos hyphen']
        exact ih alike.nextSkip (by omega) (by omega) _ (alike.nextSkip.head?_iff (by decide))
      · rw [readLeadingHyphens_other hyphen, readLeadingHyphens_other (mt same.mp hyphen)]
        exact ⟨rfl, alike⟩

theorem readClassOpening_shut (alike : Alike source shut) :
    Agree NearEnd (readClassOpening source) (readClassOpening shut) := by
  refine alike.agree readClassOpening_leaves ?_
  have start : Alike source.skip source.shut.skip := Alike.skip (.inl rfl)
  have signed : (if source.skip.head? = some '^' then (true, source.skip.nextSkip)
        else (false, source.skip)).1 = (if source.shut.skip.head? = some '^' then
          (true, source.shut.skip.nextSkip) else (false, source.shut.skip)).1 ∧
      Alike (if source.skip.head? = some '^' then (true, source.skip.nextSkip)
        else (false, source.skip)).2 (if source.shut.skip.head? = some '^' then
          (true, source.shut.skip.nextSkip) else (false, source.shut.skip)).2 := by
    simp only [start.head?_iff (show '^' ≠ ')' by decide)]
    split
    · exact ⟨rfl, start.nextSkip⟩
    · exact ⟨rfl, start⟩
  unfold readClassOpening
  dsimp only
  generalize (if source.skip.head? = some '^' then (true, source.skip.nextSkip)
    else (false, source.skip)) = left at signed ⊢
  generalize (if source.shut.skip.head? = some '^' then (true, source.shut.skip.nextSkip)
    else (false, source.shut.skip)) = right at signed ⊢
  obtain ⟨sign, alike⟩ := signed
  obtain ⟨items, after⟩ := readLeadingHyphens_alike alike (Nat.le_refl _) (Nat.le_refl _) []
  rw [sign, items]
  generalize readLeadingHyphens left.2.rest.length [] left.2 = first at after ⊢
  generalize readLeadingHyphens right.2.rest.length [] right.2 = second at after ⊢
  rcases after.front with ⟨c, rest, here, mark⟩ | ⟨here, mark⟩ | ⟨here, mark⟩
  · simp only [Source.head?, here, mark, List.head?_cons]
    split
    · have skipped := after.nextSkip
      rcases skipped.front with ⟨d, more, behind, mark⟩ | ⟨behind, mark⟩ | ⟨behind, mark⟩
      · rw [if_neg (by simp [behind]), if_neg (by simp [mark])]
        exact .some skipped
      · rw [if_pos (by simp [behind]), if_neg (by simp [mark])]
        exact .late (.inr mark)
      · rw [if_pos (by simp [behind]), if_pos (by simp [mark])]
        exact .none
    · exact .some after
  · simp only [Source.head?, here, mark, List.head?_nil, List.head?_cons]
    rw [if_neg (by simp)]
    exact .late (.inr mark)
  · simp only [Source.head?, here, mark, List.head?_nil]
    exact .none

/-- The operation whose mark, the same character twice, stands at the front. -/
def classOperation? : List Char → Option ClassOperation
  | c :: d :: _ =>
      if c = d then
        if c = '&' then some .intersection
        else if c = '-' then some .difference
        else if c = '~' then some .symmetricDifference
        else none
      else none
  | _ => none

theorem classOperation?_shut (text : List Char) :
    classOperation? (text ++ [')']) = classOperation? text := by
  match text with
  | [] => rfl
  | [c] =>
      by_cases closing : c = ')'
      · subst closing
        rfl
      · simp [classOperation?, closing]
  | c :: d :: rest => rfl

theorem readClassRest_succ (fuel : Nat) (waiting : Option (ClassOperation × ClassTree))
    (items : List ClassTree) {c : Char} {rest : List Char} (here : source.skip.rest = c :: rest) :
    readClassRest (fuel + 1) waiting items source =
      if c = ']' then some (closeOperation waiting (unionOf items), { source.skip with rest })
      else
        match classOperation? (c :: rest) with
        | some kind =>
            readClassRest fuel (some (kind, closeOperation waiting (unionOf items))) []
              source.skip.next.next
        | none =>
            if c = '[' then
              match readAsciiClass? source.skip with
              | some (item, after) => readClassRest fuel waiting (item :: items) after
              | none =>
                  (readClassOpening { source.skip with rest }).bind fun ((negated, first), inner) =>
                    (readClassRest fuel none first inner).bind fun (inside, after) =>
                      readClassRest fuel waiting (.bracketed negated inside :: items) after
            else
              (readClassRange source.skip).bind fun (item, after) =>
                readClassRest fuel waiting (item :: items) after := by
  rw [readClassRest]
  dsimp only
  rw [here]
  split
  · cases ‹c :: rest = []›
  · cases ‹c :: rest = _›
    rfl
  · cases ‹c :: rest = _›
    rfl
  · cases ‹c :: rest = _›
    rfl
  · cases ‹c :: rest = _›
    rfl
  · cases ‹c :: rest = _›
    have plain : classOperation? ('[' :: rest) = none := by
      cases rest <;> simp [classOperation?]
    rw [plain]
    rfl
  · rename_i closing both minus tilde opening
    have plain : classOperation? (c :: rest) = none := by
      cases rest with
      | nil => rfl
      | cons d more =>
          by_cases twice : c = d
          · subst twice
            have first : c ≠ '&' := fun same => both more (by rw [same])
            have second : c ≠ '-' := fun same => minus more (by rw [same])
            have third : c ≠ '~' := fun same => tilde more (by rw [same])
            simp [classOperation?, first, second, third]
          · simp [classOperation?, twice]
    rw [if_neg fun same => closing rest (congrArg (· :: rest) same), plain]
    dsimp only
    rw [if_neg fun same => opening rest (congrArg (· :: rest) same)]

theorem readClassRest_nil (fuel : Nat) (waiting : Option (ClassOperation × ClassTree))
    (items : List ClassTree) (here : source.skip.rest = []) :
    readClassRest fuel waiting items source = none := by
  cases fuel with
  | zero => rfl
  | succ fuel => rw [readClassRest, here]

theorem readClassRest_closing (fuel : Nat) (waiting : Option (ClassOperation × ClassTree))
    (items : List ClassTree) (here : source.skip.rest = [')']) :
    readClassRest fuel waiting items source = none := by
  cases fuel with
  | zero => rfl
  | succ fuel =>
      have item : readClassRange source.skip = none := by
        generalize source.skip = skipped at here
        obtain ⟨text, verbose, names⟩ := skipped
        cases here
        cases verbose <;> rfl
      rw [readClassRest_succ _ _ _ here, if_neg (by decide), item]
      rfl

theorem readClassRest_nearEnd (near : shut.rest = [] ∨ shut.rest = [')']) (fuel : Nat)
    (waiting : Option (ClassOperation × ClassTree)) (items : List ClassTree) :
    readClassRest fuel waiting items shut = none := by
  have skipped : shut.skip.rest = [] ∨ shut.skip.rest = [')'] := by
    obtain ⟨text, verbose, names⟩ := shut
    rcases near with rfl | rfl <;> cases verbose <;>
      simp [Source.skip, Source.skipVerbose, Text.isBlank]
  rcases skipped with nothing | closing
  · exact readClassRest_nil _ _ _ nothing
  · exact readClassRest_closing _ _ _ closing

theorem readClassRest_shut (alike : Alike source shut) {fuel more : Nat}
    (enough : source.rest.length < fuel) (further : shut.rest.length < more)
    (waiting : Option (ClassOperation × ClassTree)) (items : List ClassTree) :
    Agree Never (readClassRest fuel waiting items source)
      (readClassRest more waiting items shut) := by
  induction fuel generalizing more waiting items source shut with
  | zero => cases enough
  | succ fuel ih =>
      obtain ⟨more, rfl⟩ := Nat.exists_eq_add_one_of_ne_zero (Nat.ne_zero_of_lt further)
      have skipped := alike.skip
      have left := length_skip_le source
      have right := length_skip_le shut
      have go {next last : Source} (after : Alike next last)
          (less : next.rest.length < source.skip.rest.length)
          (less' : last.rest.length < shut.skip.rest.length)
          (waiting : Option (ClassOperation × ClassTree)) (items : List ClassTree) :
          Agree Never (readClassRest fuel waiting items next)
            (readClassRest more waiting items last) :=
        ih after (by omega) (by omega) waiting items
      rcases skipped.front with ⟨c, rest, here, mark⟩ | ⟨here, mark⟩ | ⟨here, mark⟩
      · have after : Alike { source.skip with rest } { shut.skip with rest := rest ++ [')'] } := by
          rw [skipped.rest_eq here]
          exact .inl rfl
        rw [here, List.length_cons] at go left
        rw [mark, List.length_cons, List.length_append] at go right
        rw [readClassRest_succ _ _ _ here, readClassRest_succ _ _ _ mark, ← List.cons_append,
          classOperation?_shut]
        split
        · exact .some after
        · split
          · refine go skipped.next.next ?_ ?_ _ _
            · rw [length_next, length_next, here, List.length_cons]
              omega
            · rw [length_next, length_next, mark, List.length_cons, List.length_append]
              omega
          · split
            · have named := readAsciiClass?_shut skipped
              have leaves := readAsciiClass?_leaves source.skip
              have leaves' := readAsciiClass?_leaves shut.skip
              rw [here, List.length_cons] at leaves
              rw [mark, List.length_cons, List.length_append] at leaves'
              generalize readAsciiClass? source.skip = first at named leaves ⊢
              generalize readAsciiClass? shut.skip = second at named leaves' ⊢
              cases named with
              | late never => cases never
              | some after =>
                  have less := leaves _ _ rfl
                  have less' := leaves' _ _ rfl
                  exact go after (by omega) (by omega) _ _
              | none =>
                  refine (readClassOpening_shut after).bind_mem ?_ ?_
                  · intro opening inner inner' read read' alike
                    have less := readClassOpening_leaves _ _ _ read
                    have less' := readClassOpening_leaves _ _ _ read'
                    dsimp only at less less' ⊢
                    rw [List.length_append] at less'
                    refine (go alike (by omega) (by omega) _ _).bind_mem ?_
                      (fun _ _ _ never => never.elim)
                    intro inside last last' read read' alike
                    have further := readClassRest_leaves inner _ _ _ _ _ read
                    have further' := readClassRest_leaves inner' _ _ _ _ _ read'
                    exact go alike (by omega) (by omega) _ _
                  · intro opening inner _ near
                    dsimp only
                    rw [readClassRest_nearEnd near]
                    exact .none
            · refine (readClassRange_shut skipped).bind_mem ?_ ?_
              · intro item next next' read read' alike
                have less := readClassRange_leaves _ _ _ read
                have less' := readClassRange_leaves _ _ _ read'
                rw [here, List.length_cons] at less
                rw [mark, List.length_cons, List.length_append] at less'
                exact go alike (by omega) (by omega) _ _
              · intro item next _ near
                dsimp only
                rw [readClassRest_nearEnd near]
                exact .none
      · rw [readClassRest_nil _ _ _ here, readClassRest_closing _ _ _ mark]
        exact .none
      · rw [readClassRest_nil _ _ _ here, readClassRest_nil _ _ _ mark]
        exact .none

theorem readClass_shut (alike : Alike source shut) :
    Agree Never (readClass source) (readClass shut) := by
  unfold readClass
  refine (readClassOpening_shut alike).bind ?_ ?_
  · intro opening source shut alike
    exact (readClassRest_shut alike (by omega) (by omega) _ _).map
      (fun _ _ _ after => ⟨rfl, after⟩) (fun _ _ never => never.elim)
  · intro opening shut near
    dsimp only
    rw [readClassRest_nearEnd near]
    exact .none

end

end Reckon.Pattern
