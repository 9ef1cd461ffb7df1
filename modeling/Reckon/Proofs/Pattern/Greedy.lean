import Mathlib.Data.List.TakeWhile
import Reckon.Proofs.Pattern.Ends

/-!
Greedy repetitions.  Where each match of the body goes forward, the preferred end of a greedy
repetition is found by following the preferred match of the body as often as there is one.
-/

namespace Reckon

open Text (Spot)

namespace Text.Spot

/-- The place a number of characters further on, or the end of the text. -/
def advance (spot : Spot) : Nat → Spot
  | 0 => spot
  | count + 1 =>
      match spot.rest with
      | [] => spot
      | c :: _ => (spot.pass c).advance count

variable {spot : Spot} {c : Char} {rest : List Char}

theorem advance_succ (here : spot.rest = c :: rest) (count : Nat) :
    spot.advance (count + 1) = (spot.pass c).advance count := by
  rw [advance, here]

theorem rest_pass (here : spot.rest = c :: rest) : (spot.pass c).rest = rest := by
  rw [pass, here, List.tail_cons]

theorem rest_advance (spot : Spot) (count : Nat) :
    (spot.advance count).rest = spot.rest.drop count := by
  induction count generalizing spot with
  | zero => rfl
  | succ count ih =>
      cases here : spot.rest with
      | nil =>
          rw [advance, here, List.drop_nil]
          exact here
      | cons c rest => rw [advance_succ here, ih, rest_pass here, List.drop_succ_cons]

theorem index_advance (spot : Spot) {count : Nat} (inside : count ≤ spot.rest.length) :
    (spot.advance count).index = spot.index + count := by
  induction count generalizing spot with
  | zero => rfl
  | succ count ih =>
      cases here : spot.rest with
      | nil => simp [here] at inside
      | cons c rest =>
          rw [here] at inside
          rw [advance_succ here, ih]
          · exact Nat.add_right_comm ..
          · rw [rest_pass here]
            exact Nat.le_of_succ_le_succ inside

theorem advance_add (spot : Spot) (first second : Nat) :
    spot.advance (first + second) = (spot.advance first).advance second := by
  induction first generalizing spot with
  | zero => rw [Nat.zero_add, advance]
  | succ first ih =>
      cases here : spot.rest with
      | nil =>
          have stays (count : Nat) : spot.advance count = spot := by
            cases count with
            | zero => rfl
            | succ count => rw [advance, here]
          rw [stays, stays, stays]
      | cons c rest => rw [Nat.add_right_comm, advance_succ here, advance_succ here, ih]

theorem Onward.eq_advance {last : Spot} (onward : Onward spot last) :
    last = spot.advance (last.index - spot.index) := by
  induction onward with
  | refl => rw [Nat.sub_self, advance]
  | @pass spot last c rest here more ih =>
      have further : last.index - spot.index = last.index - (spot.pass c).index + 1 := by
        have less : spot.index + 1 ≤ last.index := more.index_le
        change last.index - spot.index = last.index - (spot.index + 1) + 1
        omega
      rw [further, advance_succ here]
      exact ih

end Text.Spot

namespace Pattern

open Text.Spot (Onward)

/-! ## What was found first stays last -/

theorem add_suffix (search : Search) (spot : Spot) : search.found <:+ (search.add spot).found := by
  unfold Search.add
  split
  · exact List.suffix_rfl
  · exact List.suffix_cons _ _

theorem foldl_add_suffix (spots : List Spot) (search : Search) :
    search.found <:+ (spots.foldl Search.add search).found :=
  List.foldlRecOn (motive := fun later : Search => search.found <:+ later.found) spots _
    List.suffix_rfl fun later before spot _ => List.IsSuffix.trans before (add_suffix later spot)

section

variable (ends : Spot → List Spot) (greedy : Bool)

def loopStep (fuel : Nat) (start : Spot) (found : List Nat × List Spot) (spot : Spot) :
    List Nat × List Spot :=
  if found.1.contains spot.index then found
  else if spot.index = start.index then (spot.index :: found.1, spot :: found.2)
  else if greedy then
    let further := endsOfLoop ends greedy fuel spot (spot.index :: found.1, found.2)
    (further.1, spot :: further.2)
  else endsOfLoop ends greedy fuel spot (spot.index :: found.1, spot :: found.2)

theorem endsOfLoop_succ (fuel : Nat) (start : Spot) (found : List Nat × List Spot) :
    endsOfLoop ends greedy (fuel + 1) start found =
      (ends start).foldl (loopStep ends greedy fuel start) found := rfl

variable {ends greedy}

theorem loopStep_suffix {fuel : Nat}
    (loop : ∀ start found, found.2 <:+ (endsOfLoop ends greedy fuel start found).2)
    (start : Spot) (found : List Nat × List Spot) (spot : Spot) :
    found.2 <:+ (loopStep ends greedy fuel start found spot).2 := by
  unfold loopStep
  split
  · exact List.suffix_rfl
  · split
    · exact List.suffix_cons _ _
    · split
      · exact (loop spot (spot.index :: found.1, found.2)).trans (List.suffix_cons _ _)
      · exact (List.suffix_cons spot _).trans (loop spot (spot.index :: found.1, spot :: found.2))

theorem foldl_loopStep_suffix {fuel : Nat}
    (loop : ∀ start found, found.2 <:+ (endsOfLoop ends greedy fuel start found).2)
    (start : Spot) (spots : List Spot) (found : List Nat × List Spot) :
    found.2 <:+ (spots.foldl (loopStep ends greedy fuel start) found).2 :=
  List.foldlRecOn (motive := fun later : List Nat × List Spot => found.2 <:+ later.2) spots _
    List.suffix_rfl fun later before spot _ =>
      List.IsSuffix.trans before (loopStep_suffix loop start later spot)

theorem endsOfLoop_suffix (fuel : Nat) (start : Spot) (found : List Nat × List Spot) :
    found.2 <:+ (endsOfLoop ends greedy fuel start found).2 := by
  induction fuel generalizing start found with
  | zero => exact List.suffix_rfl
  | succ fuel ih => exact foldl_loopStep_suffix ih start _ found

end

/-- The place where the preferred matches of a body, one after another, come to their end. -/
inductive Climbs (ends : Spot → List Spot) : Spot → Spot → Prop
  | stop {spot : Spot} (stuck : ends spot = []) : Climbs ends spot spot
  | step {spot next last : Spot} {others : List Spot} (here : ends spot = next :: others)
      (more : Climbs ends next last) : Climbs ends spot last

theorem endsOfLoop_of_none {ends : Spot → List Spot} {greedy : Bool} {start : Spot}
    (stuck : ends start = []) (fuel : Nat) (found : List Nat × List Spot) :
    endsOfLoop ends greedy fuel start found = found := by
  cases fuel with
  | zero => rfl
  | succ fuel => rw [endsOfLoop_succ, stuck, List.foldl_nil]

def Advances (ends : Spot → List Spot) : Prop :=
  ∀ spot, ∀ last ∈ ends spot, Onward spot last ∧ spot.index < last.index

section

variable {ends : Spot → List Spot} (advances : Advances ends) {start last : Spot}

include advances

theorem endsOfLoop_first (climbs : Climbs ends start last) {fuel : Nat}
    (enough : start.rest.length < fuel) {found : List Nat × List Spot}
    (known : ∀ index ∈ found.1, index ≤ start.index) :
    (if ends start = [] then [] else [last]) ++ found.2 <:+
      (endsOfLoop ends true fuel start found).2 := by
  induction climbs generalizing fuel found with
  | stop stuck =>
      rw [if_pos stuck]
      exact endsOfLoop_suffix fuel _ found
  | @step spot next last others here more ih =>
      obtain ⟨fuel, rfl⟩ := Nat.exists_eq_add_of_lt enough
      obtain ⟨onward, later⟩ := advances spot next (here ▸ List.mem_cons_self)
      have lengths := onward.index_add_length
      have new : found.1.contains next.index = false := by
        rw [← Bool.not_eq_true, List.contains_iff_mem]
        intro old
        exact absurd (known _ old) (Nat.not_le_of_lt later)
      rw [if_neg (by rw [here]; exact List.cons_ne_nil _ _), endsOfLoop_succ, here, List.foldl_cons]
      refine List.IsSuffix.trans ?_ (foldl_loopStep_suffix (endsOfLoop_suffix _) spot others _)
      unfold loopStep
      rw [new, if_neg Bool.false_ne_true, if_neg (Nat.ne_of_gt later), if_pos rfl]
      have marked : ∀ index ∈ next.index :: found.1, index ≤ next.index := by
        intro index old
        rcases List.mem_cons.mp old with rfl | old
        · exact Nat.le_refl _
        · exact Nat.le_of_lt (Nat.lt_of_le_of_lt (known _ old) later)
      have shorter : next.rest.length < spot.rest.length + fuel := by omega
      have deeper := @ih _ shorter (next.index :: found.1, found.2) marked
      split at deeper
      · rename_i stuck
        cases more with
        | stop => rw [endsOfLoop_of_none stuck]; exact List.suffix_rfl
        | step found => exact absurd (stuck.symm.trans found) nofun
      · exact deeper.trans (List.suffix_cons _ _)

theorem head?_endsOfSome (climbs : Climbs ends start last) :
    (endsOfSome ends true start).head? = if ends start = [] then none else some last := by
  have nothing : ∀ index ∈ (([], []) : List Nat × List Spot).1, index ≤ start.index := nofun
  have first := endsOfLoop_first advances climbs (Nat.lt_succ_self _) nothing
  unfold endsOfSome
  rw [List.head?_reverse]
  split
  · rename_i stuck
    rw [endsOfLoop_of_none stuck]
    rfl
  · rename_i found
    rw [if_neg found] at first
    obtain ⟨front, whole⟩ := first
    rw [← whole]
    simp

end

namespace Node

variable {body : Node} {spot last : Spot}

theorem firstEnd?_some (advances : Advances body.ends) (climbs : Climbs body.ends spot last) :
    (repeated 1 none true body).firstEnd? spot =
      if body.ends spot = [] then none else some last := by
  change (distinctSpots [] ([spot].flatMap (endsOfSome body.ends true))).head? = _
  rw [head?_distinctSpots, List.flatMap_singleton]
  exact head?_endsOfSome advances climbs

theorem firstEnd?_many (advances : Advances body.ends) (climbs : Climbs body.ends spot last) :
    (repeated 0 none true body).firstEnd? spot = some last := by
  change (distinctSpots [] (endsOfSome body.ends true spot ++ [spot])).head? = _
  rw [head?_distinctSpots, List.head?_append, head?_endsOfSome advances climbs]
  split
  · rename_i stuck
    cases climbs with
    | stop => rfl
    | step found => exact absurd (stuck.symm.trans found) nofun
  · rfl

theorem firstEnd?_optional (body : Node) (spot : Spot) :
    (repeated 0 (some 1) true body).firstEnd? spot = (body.firstEnd? spot).or (some spot) := by
  change (distinctSpots [] ([spot].flatMap (endsOfUpTo body.ends true 1))).head? = _
  rw [head?_distinctSpots, List.flatMap_singleton, endsOfUpTo, List.head?_reverse]
  change (((body.ends spot).foldl Search.add ⟨[(0, spot.index)], []⟩).add spot).found.getLast? = _
  cases here : body.ends spot with
  | nil => rw [firstEnd?, here]; rfl
  | cons next others =>
      have first : [next] <:+
          (((next :: others).foldl Search.add ⟨[(0, spot.index)], []⟩).add spot).found :=
        (foldl_add_suffix others ⟨[(0, spot.index)], [next]⟩).trans (add_suffix _ spot)
      obtain ⟨front, whole⟩ := first
      rw [← whole, firstEnd?, here]
      simp

theorem advances_set (chars : Unicode.CharSet) : Advances (set chars).ends := by
  intro spot last member
  refine ⟨onward_of_mem_ends member, ?_⟩
  unfold ends at member
  split at member
  · split at member
    · cases List.mem_singleton.mp member
      exact Nat.lt_succ_self _
    · cases member
  · cases member

theorem advances_seq {first : Node} (advances : Advances first.ends) (second : Node) :
    Advances (seq first second).ends := by
  intro spot last member
  obtain ⟨middle, before, found⟩ := List.mem_flatMap.mp (mem_of_mem_distinctSpots member)
  have further := onward_of_mem_ends found
  obtain ⟨onward, later⟩ := advances spot middle before
  exact ⟨onward.trans further, Nat.lt_of_lt_of_le later further.index_le⟩

/-! ## Sequences -/

theorem firstEnd?_seq (first second : Node) (spot : Spot) :
    (seq first second).firstEnd? spot = (first.ends spot).findSome? second.firstEnd? := by
  change (distinctSpots [] ((first.ends spot).flatMap second.ends)).head? = _
  rw [head?_distinctSpots, List.head?_flatMap]
  rfl

/-- Behind the preferred end of the first part the second one decides, if it does not match behind
any other end of the first. -/
theorem firstEnd?_seq_of_first {first second : Node} {middle : Spot}
    (found : first.firstEnd? spot = some middle)
    (others : ∀ other ∈ first.ends spot, other ≠ middle → second.firstEnd? other = none) :
    (seq first second).firstEnd? spot = second.firstEnd? middle := by
  rw [firstEnd?_seq]
  obtain ⟨rest, whole⟩ := List.head?_eq_some_iff.mp found
  rw [whole, List.findSome?_cons]
  cases here : second.firstEnd? middle with
  | some last => rfl
  | none =>
      refine List.findSome?_eq_none_iff.mpr fun other member => ?_
      by_cases same : other = middle
      · rw [same, here]
      · exact others other (whole ▸ List.mem_cons_of_mem _ member) same

theorem firstEnd?_seq_of_some {first second : Node} {middle : Spot}
    (found : first.firstEnd? spot = some middle) (more : second.firstEnd? middle = some last) :
    (seq first second).firstEnd? spot = some last := by
  rw [firstEnd?_seq]
  obtain ⟨rest, whole⟩ := List.head?_eq_some_iff.mp found
  rw [whole, List.findSome?_cons, more]

theorem firstEnd?_seq_of_none {first : Node} (unmatched : first.firstEnd? spot = none) (second : Node) :
    (seq first second).firstEnd? spot = none := by
  rw [firstEnd?_seq, firstEnd?_eq_none_iff.mp unmatched]
  rfl

/-! ## Runs of characters -/

section

variable (chars : Unicode.CharSet) (spot : Spot)

def runOf : Nat := (spot.rest.takeWhile chars.contains).length

variable {chars spot}

theorem ends_set {c : Char} {rest : List Char} (here : spot.rest = c :: rest) :
    (set chars).ends spot = if chars.contains c then [spot.pass c] else [] := by
  rw [ends, here]

theorem ends_set_nil (here : spot.rest = []) : (set chars).ends spot = [] := by
  rw [ends, here]

theorem climbs_set : Climbs (set chars).ends spot (spot.advance (runOf chars spot)) := by
  generalize size : spot.rest.length = count
  induction count generalizing spot with
  | zero =>
      have empty := List.length_eq_zero_iff.mp size
      rw [runOf, empty]
      exact .stop (ends_set_nil empty)
  | succ count ih =>
      obtain ⟨c, rest, here⟩ := List.exists_cons_of_length_eq_add_one size
      by_cases holds : chars.contains c = true
      · have run : runOf chars spot = runOf chars (spot.pass c) + 1 := by
          rw [runOf, runOf, here, Text.Spot.rest_pass here, List.takeWhile_cons_of_pos holds,
            List.length_cons]
        rw [run, Text.Spot.advance_succ here]
        have first : (set chars).ends spot = [spot.pass c] := by rw [ends_set here, if_pos holds]
        refine .step first (ih ?_)
        rw [Text.Spot.rest_pass here]
        simpa [here] using size
      · have run : runOf chars spot = 0 := by
          rw [runOf, here, List.takeWhile_cons_of_neg holds, List.length_nil]
        rw [run]
        exact .stop (by rw [ends_set here, if_neg holds])

theorem runOf_eq_zero_iff : runOf chars spot = 0 ↔ (set chars).ends spot = [] := by
  cases here : spot.rest with
  | nil => simp [runOf, here, ends_set_nil here]
  | cons c rest =>
      rw [runOf, here, ends_set here]
      by_cases holds : chars.contains c = true <;> simp [holds]

theorem firstEnd?_some_set : (repeated 1 none true (set chars)).firstEnd? spot =
    if runOf chars spot = 0 then none else some (spot.advance (runOf chars spot)) := by
  rw [firstEnd?_some (advances_set chars) climbs_set]
  simp only [runOf_eq_zero_iff]

theorem firstEnd?_many_set : (repeated 0 none true (set chars)).firstEnd? spot =
    some (spot.advance (runOf chars spot)) :=
  firstEnd?_many (advances_set chars) climbs_set

theorem exists_of_lt_runOf {count : Nat} (within : count < runOf chars spot) :
    ∃ c rest, (spot.advance count).rest = c :: rest ∧ chars.contains c = true := by
  have whole := List.takeWhile_append_dropWhile (p := chars.contains) (l := spot.rest)
  have inside : count < (spot.rest.takeWhile chars.contains).length := within
  refine ⟨(spot.rest.takeWhile chars.contains)[count], ?_⟩
  refine ⟨(spot.rest.takeWhile chars.contains).drop (count + 1) ++
    spot.rest.dropWhile chars.contains, ?_, List.mem_takeWhile_imp (List.getElem_mem inside)⟩
  rw [Text.Spot.rest_advance, ← List.cons_append, ← List.drop_eq_getElem_cons inside,
    ← List.drop_append_of_le_length (Nat.le_of_lt inside), whole]

theorem not_contains_behind_run {c : Char} {rest : List Char}
    (here : (spot.advance (runOf chars spot)).rest = c :: rest) : chars.contains c = false := by
  have whole := List.takeWhile_append_dropWhile (p := chars.contains) (l := spot.rest)
  have fails := List.head?_dropWhile_not chars.contains spot.rest
  rw [Text.Spot.rest_advance] at here
  have behind : spot.rest.dropWhile chars.contains = c :: rest := by
    rw [← here]
    conv => rhs; rw [← whole]
    rw [runOf, List.drop_left]
  rw [behind] at fails
  simpa using fails

theorem exists_advance_of_mem {least : Nat} (last : Spot)
    (member : last ∈ (repeated least none true (set chars)).ends spot) :
    ∃ count ≤ runOf chars spot, last = spot.advance count := by
  have keeps : ∀ middle, (∃ count ≤ runOf chars spot, middle = spot.advance count) →
      ∀ last ∈ (set chars).ends middle, ∃ count ≤ runOf chars spot, last = spot.advance count := by
    rintro middle ⟨count, within, rfl⟩ last member
    cases here : (spot.advance count).rest with
    | nil => rw [ends_set_nil here] at member; cases member
    | cons c rest =>
        rw [ends_set here] at member
        split at member
        · rename_i holds
          have less : count < runOf chars spot := by
            refine Nat.lt_of_le_of_ne within ?_
            rintro rfl
            rw [not_contains_behind_run here] at holds
            cases holds
          refine ⟨count + 1, less, (List.mem_singleton.mp member).trans ?_⟩
          rw [Text.Spot.advance_add, Text.Spot.advance_succ here, Text.Spot.advance]
        · cases member
  have start : ∃ count ≤ runOf chars spot, spot = spot.advance count := ⟨0, Nat.zero_le _, rfl⟩
  match least with
  | 0 => exact reached_endsOfMany keeps start last member
  | least + 1 =>
      exact reached_endsOfAll (fun _ => reached_endsOfSome keeps)
        (reached_endsOfTimes keeps (List.forall_mem_singleton.mpr start)) last member

theorem firstEnd?_set_seq_of_cons {c : Char} {rest : List Char} (here : spot.rest = c :: rest)
    (node : Node) : (seq (set chars) node).firstEnd? spot =
      if chars.contains c then node.firstEnd? (spot.pass c) else none := by
  rw [firstEnd?_seq, ends_set here]
  split
  · exact List.findSome?_singleton
  · rfl

theorem firstEnd?_set_seq_of_nil (here : spot.rest = []) (node : Node) :
    (seq (set chars) node).firstEnd? spot = none := by
  rw [firstEnd?_seq, ends_set_nil here]
  rfl

/-- A run is taken to its end where what follows starts with a character that is not in it. -/
theorem firstEnd?_run_seq {least : Nat} {stop : Unicode.CharSet} (node : Node)
    (apart : ∀ c, chars.contains c = true → stop.contains c = false)
    (found : (repeated least none true (set chars)).firstEnd? spot =
      some (spot.advance (runOf chars spot))) :
    (seq (repeated least none true (set chars)) (seq (set stop) node)).firstEnd? spot =
      (seq (set stop) node).firstEnd? (spot.advance (runOf chars spot)) := by
  refine firstEnd?_seq_of_first found fun other member different => ?_
  obtain ⟨count, within, rfl⟩ := exists_advance_of_mem other member
  have less : count < runOf chars spot := by
    refine Nat.lt_of_le_of_ne within ?_
    rintro rfl
    exact different rfl
  obtain ⟨c, rest, here, holds⟩ := exists_of_lt_runOf less
  rw [firstEnd?_set_seq_of_cons here, apart c holds, if_neg Bool.false_ne_true]

end

end Node

end Pattern

end Reckon
