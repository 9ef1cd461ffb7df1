import Reckon.Proofs.Outcome
import Reckon.Proofs.Value.Hereditary
import Reckon.Standard

/-!
Functions that need only their arguments.  They refuse these, or give plain values and texts in
arrays, so their results have each property that values share with their parts.
-/

namespace Reckon

open Outcome Value

def Error.Refuses : Error → Prop
  | .invalidArity .. | .function .. => True
  | _ => False

namespace Standard

section

variable (name : String) (arguments : List Value) (index : Nat)

theorem ends_checkArity (count least : Nat) (most : Option Nat) :
    Ends (fun _ => True) Error.Refuses (checkArity name count least most) := by
  unfold checkArity
  split <;> trivial

theorem ends_stringArgument :
    Ends (fun _ => True) Error.Refuses (stringArgument name arguments index) := by
  unfold stringArgument
  split <;> trivial

theorem ends_numberArgument :
    Ends (fun _ => True) Error.Refuses (numberArgument name arguments index) := by
  unfold numberArgument
  split <;> trivial

theorem ends_arrayArgument :
    Ends (fun items => argument arguments index = .array items) Error.Refuses
      (arrayArgument name arguments index) := by
  unfold arrayArgument
  split
  · assumption
  · trivial

theorem ends_optionalString :
    Ends (fun _ => True) Error.Refuses (optionalString name arguments index) := by
  unfold optionalString
  split
  · exact ends_map (ends_stringArgument name arguments index) fun _ _ => trivial
  · trivial

theorem ends_dateArgument :
    Ends (fun _ => True) Error.Refuses (dateArgument name arguments index) := by
  unfold dateArgument
  dsimp only
  split <;> trivial

theorem ends_itemArguments :
    Ends (fun found => argument arguments 0 = .array found.1) Error.Refuses
      (itemArguments name arguments) := by
  refine ends_bind (ends_checkArity name _ 2 (some 2)) fun _ _ => ?_
  refine ends_bind (ends_arrayArgument name arguments 0) fun items here => ?_
  exact ends_bind (ends_stringArgument name arguments 1) fun text _ => here

theorem ends_uniqueArguments :
    Ends (fun found => argument arguments 0 = .array found.1) Error.Refuses (do
      checkArity "unique" arguments.length 1 (some 2)
      let items ← arrayArgument "unique" arguments 0
      let text? ← optionalString "unique" arguments 1
      return (items, text?)) := by
  refine ends_bind (ends_checkArity "unique" _ 1 (some 2)) fun _ _ => ?_
  refine ends_bind (ends_arrayArgument "unique" arguments 0) fun items here => ?_
  exact ends_bind (ends_optionalString "unique" arguments 1) fun text? _ => here

theorem ends_reduceArguments :
    Ends (fun found => argument arguments 0 = .array found.1) Error.Refuses (do
      checkArity "reduce" arguments.length 3 (some 3)
      let items ← arrayArgument "reduce" arguments 0
      let text ← stringArgument "reduce" arguments 1
      return (items, text)) := by
  refine ends_bind (ends_checkArity "reduce" _ 3 (some 3)) fun _ _ => ?_
  refine ends_bind (ends_arrayArgument "reduce" arguments 0) fun items here => ?_
  exact ends_bind (ends_stringArgument "reduce" arguments 1) fun text _ => here

theorem ends_readPatternFlags (flags : PatternFlags) (letters : List Char) :
    Ends (fun _ => True) Error.Refuses (readPatternFlags flags letters) := by
  induction letters generalizing flags with
  | nil => trivial
  | cons letter rest ih =>
      unfold readPatternFlags
      split
      · exact ih _
      · split
        · exact ih flags
        · split
          · exact ih _
          · trivial

theorem ends_compilePattern (pattern flags : String) :
    Ends (fun _ => True) Error.Refuses (compilePattern pattern flags) := by
  refine ends_bind (ends_readPatternFlags _ _) fun flags _ => ?_
  split <;> trivial

end

section

variable {good : Value → Prop} (hereditary : Hereditary good) (arguments : List Value)

include hereditary

theorem ends_regex : Ends good Error.Refuses (regex arguments) := by
  refine ends_bind (ends_stringArgument "regex" arguments 1) fun pattern _ => ?_
  refine ends_bind (ends_optionalString "regex" arguments 2) fun flags _ => ?_
  refine ends_bind (ends_compilePattern pattern (flags.getD "")) fun compiled _ => ?_
  exact hereditary.boolean _

theorem ends_length : Ends good Error.Refuses (length arguments) := by
  unfold length
  split
  · exact hereditary.ofNat _
  · exact hereditary.ofNat _
  · exact hereditary.ofNat _
  · trivial

theorem ends_onText (name : String) (change : List Char → List Char) :
    Ends good Error.Refuses (onText name change arguments) :=
  ends_map (ends_stringArgument name arguments 0) fun _ _ => hereditary.string _

theorem ends_join : Ends good Error.Refuses (join arguments) := by
  refine ends_bind (ends_optionalString "join" arguments 1) fun separator _ => ?_
  refine ends_bind (ends_arrayArgument "join" arguments 0) fun items _ => ?_
  exact hereditary.string _

theorem ends_split : Ends good Error.Refuses (split arguments) := by
  refine ends_bind (ends_stringArgument "split" arguments 0) fun text _ => ?_
  refine ends_bind (ends_stringArgument "split" arguments 1) fun separator _ => ?_
  refine hereditary.array ?_
  rw [List.forall_mem_map]
  exact fun piece _ => hereditary.string _

theorem ends_date (clock : Calendar.Moment) : Ends good Error.Refuses (date clock arguments) := by
  unfold date
  split
  · exact hereditary.string _
  · exact ends_map (ends_dateArgument "date" arguments 0) fun _ _ => hereditary.string _

theorem ends_datePart (name : String) (part : Calendar.Date → Int) :
    Ends good Error.Refuses (datePart name part arguments) :=
  ends_map (ends_dateArgument name arguments 0) fun _ _ => hereditary.number _

theorem ends_dateFormat : Ends good Error.Refuses (dateFormat arguments) := by
  refine ends_bind (ends_stringArgument "date_format" arguments 0) fun format _ => ?_
  refine ends_bind (ends_dateArgument "date_format" arguments 1) fun moment _ => ?_
  exact hereditary.string _

theorem ends_shiftDate (name : String) (direction : Float) :
    Ends good Error.Refuses (shiftDate name direction arguments) := by
  refine ends_bind (ends_numberArgument name arguments 0) fun amount _ => ?_
  refine ends_bind (ends_stringArgument name arguments 1) fun unitName _ => ?_
  refine ends_bind (ends_dateArgument name arguments 2) fun moment _ => ?_
  split
  · trivial
  · split
    · exact hereditary.string _
    · trivial

end

variable (clock : Calendar.Moment)

def functions : Table Callable :=
  arrayFunctions ++ textFunctions ++ dateFunctions clock

variable {clock}

theorem mem_functions {name : String} {callee : Callable}
    (found : (registry clock).function? name = some callee) : (name, callee) ∈ functions clock := by
  rcases Table.mem_of_get?_insertAll found with date | found
  · exact List.mem_append_right _ date
  · rcases Table.mem_of_get?_insertAll found with other | found
    · exact List.mem_append_left _ other
    · cases found

theorem plain_of_mem {name : String} {callee : Callable}
    (member : (name, callee) ∈ textFunctions ++ dateFunctions clock) :
    ∃ least most body, callee = plainFunction name least most body ∧
      ∀ good, Hereditary good → ∀ arguments, Ends good Error.Refuses (body arguments) := by
  simp only [textFunctions, dateFunctions, List.cons_append, List.nil_append, List.mem_cons,
    Prod.mk.injEq, List.not_mem_nil, or_false] at member
  rcases member with ⟨rfl, rfl⟩ | ⟨rfl, rfl⟩ | ⟨rfl, rfl⟩ | ⟨rfl, rfl⟩ | ⟨rfl, rfl⟩ | ⟨rfl, rfl⟩ |
    ⟨rfl, rfl⟩ | ⟨rfl, rfl⟩ | ⟨rfl, rfl⟩ | ⟨rfl, rfl⟩ | ⟨rfl, rfl⟩ | ⟨rfl, rfl⟩ | ⟨rfl, rfl⟩ |
    ⟨rfl, rfl⟩ | ⟨rfl, rfl⟩
  · exact ⟨_, _, _, rfl, fun _ hereditary => ends_regex hereditary⟩
  · exact ⟨_, _, _, rfl, fun _ hereditary => ends_length hereditary⟩
  · exact ⟨_, _, _, rfl, fun _ hereditary arguments => ends_onText hereditary arguments _ _⟩
  · exact ⟨_, _, _, rfl, fun _ hereditary arguments => ends_onText hereditary arguments _ _⟩
  · exact ⟨_, _, _, rfl, fun _ hereditary arguments => ends_onText hereditary arguments _ _⟩
  · exact ⟨_, _, _, rfl, fun _ hereditary arguments => hereditary.string _⟩
  · exact ⟨_, _, _, rfl, fun _ hereditary => ends_join hereditary⟩
  · exact ⟨_, _, _, rfl, fun _ hereditary => ends_split hereditary⟩
  · exact ⟨_, _, _, rfl, fun _ hereditary arguments => ends_date hereditary arguments clock⟩
  · exact ⟨_, _, _, rfl, fun _ hereditary arguments => ends_datePart hereditary arguments _ _⟩
  · exact ⟨_, _, _, rfl, fun _ hereditary arguments => ends_datePart hereditary arguments _ _⟩
  · exact ⟨_, _, _, rfl, fun _ hereditary arguments => ends_datePart hereditary arguments _ _⟩
  · exact ⟨_, _, _, rfl, fun _ hereditary => ends_dateFormat hereditary⟩
  · exact ⟨_, _, _, rfl, fun _ hereditary arguments => ends_shiftDate hereditary arguments _ _⟩
  · exact ⟨_, _, _, rfl, fun _ hereditary arguments => ends_shiftDate hereditary arguments _ _⟩

end Standard

end Reckon
