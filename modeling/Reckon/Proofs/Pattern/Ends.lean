import Mathlib.Data.List.Basic
import Reckon.Pattern.Node

/-!
Where the matches of a pattern can end: at places behind the one from which they start, each of them
once.  The preferred end of alternatives is that of the first one that matches, and a part that
stands for nothing changes no ends.
-/

namespace Reckon

open Text (Spot)

namespace Text.Spot

/-- A place is reached from another one by passing over characters. -/
inductive Onward : Spot → Spot → Prop
  | refl (spot : Spot) : Onward spot spot
  | pass {spot last : Spot} {c : Char} {rest : List Char} (here : spot.rest = c :: rest)
      (more : Onward (spot.pass c) last) : Onward spot last

namespace Onward

variable {spot middle last other : Spot}

theorem step {c : Char} {rest : List Char} (here : spot.rest = c :: rest) :
    Onward spot (spot.pass c) :=
  .pass here (.refl _)

theorem trans (first : Onward spot middle) (second : Onward middle last) : Onward spot last := by
  induction first with
  | refl => exact second
  | pass here _ ih => exact .pass here (ih second)

theorem index_le (onward : Onward spot last) : spot.index ≤ last.index := by
  induction onward with
  | refl => exact Nat.le_refl _
  | pass here more ih => exact Nat.le_of_succ_le ih

theorem index_add_length (onward : Onward spot last) :
    last.index + last.rest.length = spot.index + spot.rest.length := by
  induction onward with
  | refl => rfl
  | pass here more ih =>
      rw [ih, here, List.length_cons]
      simp only [Spot.pass, here, List.tail_cons]
      omega

theorem eq_of_index (first : Onward spot last) (second : Onward spot other)
    (same : last.index = other.index) : last = other := by
  induction first with
  | refl =>
      cases second with
      | refl => rfl
      | pass here more =>
          have less := more.index_le
          exact absurd (same ▸ less) (Nat.not_succ_le_self _)
  | pass here more ih =>
      cases second with
      | refl =>
          have less := more.index_le
          exact absurd (same ▸ less) (Nat.not_succ_le_self _)
      | pass found further =>
          cases here.symm.trans found
          exact ih further same

end Onward

end Text.Spot

namespace Pattern

open Text.Spot (Onward)

def Distinct (spots : List Spot) : Prop :=
  spots.Pairwise fun first second => first.index ≠ second.index

section

variable {known : List Nat} {spots : List Spot}

theorem mem_of_mem_distinctSpots {spot : Spot} (member : spot ∈ distinctSpots known spots) :
    spot ∈ spots := by
  induction spots generalizing known with
  | nil => cases member
  | cons first rest ih =>
      unfold distinctSpots at member
      split at member
      · exact List.mem_cons_of_mem _ (ih member)
      · rcases List.mem_cons.mp member with rfl | member
        · exact List.mem_cons_self
        · exact List.mem_cons_of_mem _ (ih member)

theorem not_mem_of_mem_distinctSpots {spot : Spot} (member : spot ∈ distinctSpots known spots) :
    spot.index ∉ known := by
  induction spots generalizing known with
  | nil => cases member
  | cons first rest ih =>
      unfold distinctSpots at member
      split at member
      · exact ih member
      · rename_i new
        rcases List.mem_cons.mp member with rfl | member
        · simpa using new
        · exact fun old => ih member (List.mem_cons_of_mem _ old)

theorem distinct_distinctSpots : Distinct (distinctSpots known spots) := by
  induction spots generalizing known with
  | nil => exact .nil
  | cons first rest ih =>
      unfold distinctSpots
      split
      · exact ih
      · refine .cons ?_ ih
        intro later member same
        exact not_mem_of_mem_distinctSpots member (same ▸ List.mem_cons_self)

theorem distinctSpots_of_distinct (distinct : Distinct spots)
    (new : ∀ spot ∈ spots, spot.index ∉ known) : distinctSpots known spots = spots := by
  induction spots generalizing known with
  | nil => rfl
  | cons first rest ih =>
      obtain ⟨apart, distinct⟩ := List.pairwise_cons.mp distinct
      obtain ⟨fresh, new⟩ := List.forall_mem_cons.mp new
      have others : ∀ spot ∈ rest, spot.index ∉ first.index :: known := by
        intro spot member old
        rcases List.mem_cons.mp old with same | old
        · exact apart spot member same.symm
        · exact new spot member old
      unfold distinctSpots
      rw [if_neg (by simpa using fresh), ih distinct others]

theorem head?_distinctSpots (spots : List Spot) : (distinctSpots [] spots).head? = spots.head? := by
  cases spots <;> rfl

end

/-! ## A property that matches keep -/

section

variable {ends : Spot → List Spot} {reached : Spot → Prop}
  (keeps : ∀ spot, reached spot → ∀ last ∈ ends spot, reached last)

include keeps

theorem reached_endsOfAll {starts : List Spot} (all : ∀ spot ∈ starts, reached spot) :
    ∀ last ∈ endsOfAll ends starts, reached last := by
  intro last member
  obtain ⟨start, inside, found⟩ := List.mem_flatMap.mp (mem_of_mem_distinctSpots member)
  exact keeps start (all start inside) last found

theorem reached_endsOfTimes {count : Nat} {starts : List Spot}
    (all : ∀ spot ∈ starts, reached spot) :
    ∀ last ∈ endsOfTimes ends count starts, reached last := by
  induction count generalizing starts with
  | zero => exact all
  | succ count ih => exact ih (reached_endsOfAll keeps all)

omit keeps in
theorem reached_add {search : Search} {spot : Spot} (all : ∀ last ∈ search.found, reached last)
    (here : reached spot) : ∀ last ∈ (search.add spot).found, reached last := by
  unfold Search.add
  split
  · exact all
  · exact List.forall_mem_cons.mpr ⟨here, all⟩

theorem reached_searchUpTo {greedy : Bool} {count : Nat} {spot : Spot} {search : Search}
    (here : reached spot) (all : ∀ last ∈ search.found, reached last) :
    ∀ last ∈ (searchUpTo ends greedy count spot search).found, reached last := by
  induction count generalizing spot search with
  | zero => exact reached_add all here
  | succ count ih =>
      have further (first : Search) (known : ∀ last ∈ first.found, reached last) :
          ∀ last ∈ ((ends spot).foldl (fun search next => searchUpTo ends greedy count next search)
            first).found, reached last :=
        List.foldlRecOn (motive := fun search : Search => ∀ last ∈ search.found, reached last)
          (ends spot) _ known fun search found next member => ih (keeps spot here next member) found
      unfold searchUpTo
      split
      · exact all
      · dsimp only
        split
        · exact reached_add (further _ all) here
        · exact further _ (reached_add all here)

theorem reached_endsOfUpTo {greedy : Bool} {count : Nat} {spot : Spot} (here : reached spot) :
    ∀ last ∈ endsOfUpTo ends greedy count spot, reached last := by
  intro last member
  have nothing : ∀ last ∈ (⟨[], []⟩ : Search).found, reached last := nofun
  exact reached_searchUpTo keeps here nothing last (List.mem_reverse.mp member)

theorem reached_endsOfLoop {greedy : Bool} {fuel : Nat} {start : Spot}
    {found : List Nat × List Spot}
    (here : reached start) (all : ∀ last ∈ found.2, reached last) :
    ∀ last ∈ (endsOfLoop ends greedy fuel start found).2, reached last := by
  induction fuel generalizing start found with
  | zero => exact all
  | succ fuel ih =>
      unfold endsOfLoop
      refine List.foldlRecOn
        (motive := fun found : List Nat × List Spot => ∀ last ∈ found.2, reached last)
        (ends start) _ all ?_
      rintro ⟨known, spots⟩ all spot member
      have next := keeps start here spot member
      dsimp only at all ⊢
      split
      · exact all
      · split
        · exact List.forall_mem_cons.mpr ⟨next, all⟩
        · split
          · exact List.forall_mem_cons.mpr ⟨next, ih next all⟩
          · exact ih next (List.forall_mem_cons.mpr ⟨next, all⟩)

theorem reached_endsOfSome {greedy : Bool} {start : Spot} (here : reached start) :
    ∀ last ∈ endsOfSome ends greedy start, reached last := by
  intro last member
  have nothing : ∀ last ∈ (([], []) : List Nat × List Spot).2, reached last := nofun
  exact reached_endsOfLoop keeps here nothing last (List.mem_reverse.mp member)

theorem reached_endsOfMany {greedy : Bool} {start : Spot} (here : reached start) :
    ∀ last ∈ endsOfMany ends greedy start, reached last := by
  intro last member
  have further : ∀ last ∈ endsOfSome ends greedy start, reached last :=
    reached_endsOfSome keeps here
  have listed := mem_of_mem_distinctSpots member
  split at listed
  · rcases List.mem_append.mp listed with found | found
    · exact further last found
    · exact List.mem_singleton.mp found ▸ here
  · rcases List.mem_cons.mp listed with rfl | found
    · exact here
    · exact further last found

end

namespace Node

theorem onward_of_mem_ends {node : Node} {spot last : Spot} (member : last ∈ node.ends spot) :
    Onward spot last := by
  induction node generalizing spot last with
  | empty => exact List.mem_singleton.mp member ▸ .refl _
  | set chars =>
      unfold ends at member
      split at member
      · rename_i c rest here
        split at member
        · exact List.mem_singleton.mp member ▸ .step here
        · cases member
      · cases member
  | look condition =>
      unfold ends at member
      split at member
      · exact List.mem_singleton.mp member ▸ .refl _
      · cases member
  | seq first second firstOnward secondOnward =>
      have keeps : ∀ middle, Onward spot middle → ∀ last ∈ ends second middle, Onward spot last :=
        fun middle before last found => before.trans (secondOnward found)
      exact reached_endsOfAll keeps (fun _ => firstOnward) last member
  | either preferred other preferredOnward otherOnward =>
      rcases List.mem_append.mp (mem_of_mem_distinctSpots member) with found | found
      · exact preferredOnward found
      · exact otherOnward found
  | repeated least most greedy body bodyOnward =>
      have keeps : ∀ middle, Onward spot middle → ∀ last ∈ ends body middle, Onward spot last :=
        fun middle before last found => before.trans (bodyOnward found)
      have start : ∀ middle ∈ [spot], Onward spot middle :=
        List.forall_mem_singleton.mpr (.refl spot)
      match least, most with
      | least, some most =>
          exact reached_endsOfAll (fun _ => reached_endsOfUpTo keeps)
            (reached_endsOfTimes keeps start) last member
      | 0, none => exact reached_endsOfMany keeps (.refl spot) last member
      | least + 1, none =>
          exact reached_endsOfAll (fun _ => reached_endsOfSome keeps)
            (reached_endsOfTimes keeps start) last member
  | group body bodyOnward => exact bodyOnward member

theorem distinct_ends (node : Node) (spot : Spot) : Distinct (node.ends spot) := by
  induction node generalizing spot with
  | empty => exact List.pairwise_singleton _ _
  | set chars =>
      unfold ends
      split
      · split
        · exact List.pairwise_singleton _ _
        · exact .nil
      · exact .nil
  | look condition =>
      unfold ends
      split
      · exact List.pairwise_singleton _ _
      · exact .nil
  | seq | either => exact distinct_distinctSpots
  | repeated least most =>
      match least, most with
      | least, some most => exact distinct_distinctSpots
      | 0, none => exact distinct_distinctSpots
      | least + 1, none => exact distinct_distinctSpots
  | group body ih => exact ih spot

/-! ## Parts that stand for nothing -/

theorem ends_empty_seq (node : Node) : (seq .empty node).ends = node.ends := by
  funext spot
  change distinctSpots [] ([spot].flatMap (ends node)) = ends node spot
  rw [List.flatMap_singleton]
  exact distinctSpots_of_distinct (distinct_ends node spot) nofun

theorem ends_seq_empty (node : Node) : (seq node .empty).ends = node.ends := by
  funext spot
  change distinctSpots [] ((ends node spot).flatMap fun last => [last]) = ends node spot
  rw [List.flatMap_singleton']
  exact distinctSpots_of_distinct (distinct_ends node spot) nofun

/-! ## Preferred ends -/

theorem firstEnd?_either (preferred other : Node) (spot : Spot) :
    (either preferred other).firstEnd? spot =
      (preferred.firstEnd? spot).or (other.firstEnd? spot) := by
  change (distinctSpots [] (ends preferred spot ++ ends other spot)).head? = _
  rw [head?_distinctSpots, List.head?_append]
  rfl

/-- Some nodes and, after them, another one, each preferred to those after it. -/
def firstOf (nodes : List Node) (last : Node) : Node :=
  nodes.foldr .either last

theorem firstEnd?_firstOf (nodes : List Node) (last : Node) (spot : Spot) :
    (firstOf nodes last).firstEnd? spot =
      (nodes.findSome? (·.firstEnd? spot)).or (last.firstEnd? spot) := by
  induction nodes with
  | nil => rfl
  | cons node nodes ih =>
      rw [firstOf, List.foldr_cons, firstEnd?_either, List.findSome?_cons]
      cases node.firstEnd? spot with
      | some last => rfl
      | none => exact ih

theorem firstEnd?_eq_none_iff {node : Node} {spot : Spot} :
    node.firstEnd? spot = none ↔ node.ends spot = [] :=
  List.head?_eq_none_iff

theorem onward_of_firstEnd? {node : Node} {spot last : Spot}
    (found : node.firstEnd? spot = some last) : Onward spot last :=
  onward_of_mem_ends (List.mem_of_head? found)

end Node

end Pattern

end Reckon
