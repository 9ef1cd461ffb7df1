import Reckon.Proofs.Text.Fields
import Reckon.Proofs.Value.Display
import Reckon.Proofs.Value.Getters
import Reckon.Standard.Operators
import Reckon.Standard.TextFunctions

/-!
Texts that other values go through: numbers that are joined with texts and read again, texts that
are cut into arrays and joined, and arrays whose elements are joined by commas.
-/

namespace Reckon.Standard

open Value

/-! ## Numbers joined with texts -/

theorem add_empty_text (number : Float) :
    add (.string "") (.number number) = .string (display (.number number)) := by
  rw [add]
  exact congrArg Value.string String.empty_append

/-- A number is found again in its string form, and so by the operators that compare it with the
text or negate the text twice. -/
theorem number_through_text (number : Float) :
    let joined := add (.string "") (.number number)
    (readNumber (display (.number number)) == number) = !number.isNaN ∧
      (readNumber (display (.number number))).isNaN = number.isNaN ∧
      joined = .string (display (.number number)) ∧
      equal (.number number) joined = .boolean (!number.isNaN) ∧
      equal (negate (negate joined)) (.number number) = .boolean (!number.isNaN) := by
  intro joined
  have text : joined = .string (display (.number number)) := add_empty_text number
  obtain ⟨found, missing⟩ := readNumber_display_number number
  refine ⟨found, missing, text, ?_, ?_⟩
  · rw [equal, text, looselyEqual_of_not_getter rfl rfl]
    change Value.boolean (number == readNumber (display (.number number))) = _
    rw [Binary64.beq_comm, found]
  · rw [equal, text, looselyEqual_of_not_getter rfl rfl]
    change Value.boolean (- -readNumber (display (.number number)) == number) = _
    rw [Binary64.neg_neg, found]

/-! ## Texts cut and joined -/

theorem split_eq (text separator : String) :
    split [.string text, .string separator] =
      .ok (.array
        (((Text.pieces separator.toList text.toList).map String.ofList).map .string)) := by
  rw [List.map_map]
  rfl

theorem join_eq (parts : List String) (separator : String) :
    join [.array (parts.map .string), .string separator] =
      .ok (.string (separator.intercalate parts)) := by
  have shown : (parts.map Value.string).map display = parts := by
    rw [List.map_map]
    exact List.map_id parts
  change Except.ok (Value.string (separator.intercalate ((parts.map Value.string).map display))) = _
  rw [shown]

theorem map_toList_ofList (pieces : List (List Char)) :
    (pieces.map String.ofList).map String.toList = pieces := by
  rw [List.map_map]
  exact (List.map_congr_left fun piece _ => String.toList_ofList).trans (List.map_id pieces)

/-- A text that is split joins to itself again; a separator of one character or more leaves a part
at least, and is found in none. -/
theorem join_split (text separator : String) :
    ∃ parts : List String,
      split [.string text, .string separator] = .ok (.array (parts.map .string)) ∧
        join [.array (parts.map .string), .string separator] = .ok (.string text) ∧
        (separator ≠ "" →
          parts ≠ [] ∧ ∀ part ∈ parts, ¬separator.toList <:+: part.toList) := by
  refine ⟨_, split_eq text separator, ?_, fun nonempty => ?_⟩
  · have whole : separator.intercalate
        ((Text.pieces separator.toList text.toList).map String.ofList) = text := by
      rw [← String.toList_inj, String.toList_intercalate, map_toList_ofList,
        Text.intercalate_pieces]
    rw [join_eq, whole]
  · have cuts := Text.cut_pieces (mt String.toList_eq_nil_iff.mp nonempty) text.toList
    refine ⟨mt List.map_eq_nil_iff.mp cuts.ne_nil, fun part member => ?_⟩
    obtain ⟨piece, inside, rfl⟩ := List.mem_map.mp member
    rw [String.toList_ofList]
    exact cuts.not_infix (mt String.toList_eq_nil_iff.mp nonempty) piece inside

/-- A separator that overlaps itself is taken where it first stands. -/
theorem join_split_overlapping :
    split [.string "baaab", .string "aa"] = .ok (.array [.string "b", .string "ab"]) ∧
      join [.array [.string "b", .string "ab"], .string "aa"] = .ok (.string "baaab") ∧
      "aa" ≠ "" ∧ ∀ part ∈ ["b", "ab"], ¬"aa".toList <:+: part.toList := by
  have cut : split [.string "baaab", .string "aa"] = .ok (.array [.string "b", .string "ab"]) := rfl
  obtain ⟨parts, same, joined, apart⟩ := join_split "baaab" "aa"
  have named : parts = ["b", "ab"] := by
    rw [cut] at same
    have values : ["b", "ab"].map Value.string = parts.map .string :=
      Value.array.inj (Except.ok.inj same)
    exact (List.map_injective_iff.mpr (fun _ _ => Value.string.inj) values).symm
  subst named
  exact ⟨cut, joined, by decide, (apart (by decide)).2⟩

/-! ## Arrays joined by commas -/

/-- Null as the text that names it; any other value is itself. -/
def spelled : Value → Value
  | .null => .string "null"
  | value => value

theorem displayItems_of_not_null {items : List Value}
    (present : ∀ item ∈ items, item.isNull = false) :
    displayItems items = items.map display := by
  induction items with
  | nil => rfl
  | cons item rest ih =>
      obtain ⟨first, others⟩ := List.forall_mem_cons.mp present
      rw [displayItems, first, if_neg Bool.false_ne_true, ih others]
      rfl

theorem displayItems_spelled (items : List Value) :
    displayItems (items.map spelled) = items.map display := by
  rw [displayItems_of_not_null, List.map_map]
  · exact List.map_congr_left fun item _ => by cases item <;> rfl
  · intro item member
    obtain ⟨found, -, rfl⟩ := List.mem_map.mp member
    cases found <;> rfl

/-- A null element is empty in the string form; its name takes four characters. -/
theorem length_intercalate_display (items : List Value) :
    (",".intercalate (items.map display)).length =
      (",".intercalate (displayItems items)).length + 4 * items.countP isNull := by
  have apart (item : Value) : (display item).length =
      (if item.isNull then "" else display item).length + if item.isNull then 4 else 0 := by
    cases item <;> rfl
  match items with
  | [] => rfl
  | [item] =>
      rw [displayItems, displayItems, List.map_singleton, String.intercalate_singleton,
        String.intercalate_singleton, apart, List.countP_singleton]
      split <;> rfl
  | first :: second :: rest =>
      have others := length_intercalate_display (second :: rest)
      rw [displayItems] at others
      simp only [List.map_cons, displayItems, String.intercalate_cons_cons, String.length_append,
        List.countP_cons (a := first)] at others ⊢
      rw [others, apart first]
      split <;> omega

/-- Joining with the default separator names the null elements that the string form leaves empty,
and so gives the string form exactly if no element is null.  Concatenation always gives it, as a
function and as an operator. -/
theorem join_eq_concat_iff (items : List Value) :
    let form := Value.string (display (.array items))
    concat [.array items] = .ok form ∧ add (.string "") (.array items) = form ∧
      join [.array items] = .ok (.string (display (.array (items.map spelled)))) ∧
      (join [.array items] = concat [.array items] ↔ ∀ item ∈ items, item.isNull = false) := by
  intro form
  have whole : concat [.array items] = .ok form := by
    change Except.ok (Value.string (String.join [display (.array items)])) = _
    rw [String.join_cons, String.join_nil, String.append_empty]
  have parts : join [.array items] = .ok (.string (",".intercalate (items.map display))) := rfl
  refine ⟨whole, ?_, ?_, ?_⟩
  · exact congrArg Value.string String.empty_append
  · rw [parts, display, displayItems_spelled]
  · rw [parts, whole]
    constructor
    · intro same
      have texts : ",".intercalate (items.map display) = ",".intercalate (displayItems items) :=
        Value.string.inj (Except.ok.inj same)
      have lengths := length_intercalate_display items
      rw [texts] at lengths
      have counted : items.countP isNull = 0 := by omega
      simpa [List.countP_eq_zero] using counted
    · intro present
      rw [← displayItems_of_not_null present]
      rfl

/-- The array of null joins to the name of null, and its string form is empty. -/
theorem join_null_element :
    join [.array [.null]] = .ok (.string "null") ∧ concat [.array [.null]] = .ok (.string "") ∧
      add (.string "") (.array [.null]) = .string "" ∧
      join [.array [.null]] ≠ concat [.array [.null]] := by
  refine ⟨rfl, rfl, rfl, ?_⟩
  intro same
  exact absurd (Value.string.inj (Except.ok.inj same)) (by decide)

end Reckon.Standard
