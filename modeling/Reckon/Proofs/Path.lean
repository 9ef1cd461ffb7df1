import Mathlib.Data.List.TakeWhile
import Reckon.Path

/-!
Paths put together and taken apart.  A point between two paths ends the segments of the first one,
so the whole is followed from where the first one leads; and the parts that a path is written from
are its segments again.
-/

namespace Reckon

theorem Text.fields_of_free {separator : Char} {text : List Char} (free : separator ∉ text) :
    fields separator text = [text] := by
  induction text with
  | nil => rfl
  | cons c rest ih =>
      obtain ⟨here, free⟩ := not_or.mp (List.mem_cons.not.mp free)
      simp [fields, Ne.symm here, ih free]

theorem Text.free_of_mem_fields {separator : Char} {text field : List Char}
    (member : field ∈ fields separator text) : separator ∉ field := by
  induction text generalizing field with
  | nil =>
      cases List.mem_singleton.mp member
      exact List.not_mem_nil
  | cons c rest ih =>
      unfold fields at member
      by_cases same : c = separator
      · rw [if_pos same] at member
        rcases List.mem_cons.mp member with rfl | member
        · exact List.not_mem_nil
        · exact ih member
      · rw [if_neg same] at member
        cases parts : fields separator rest with
        | nil => exact absurd parts (fields_ne_nil separator rest)
        | cons first others =>
            rw [parts] at ih member
            rcases List.mem_cons.mp member with rfl | member
            · exact List.not_mem_cons_of_ne_of_not_mem (Ne.symm same) (ih List.mem_cons_self)
            · exact ih (List.mem_cons_of_mem _ member)

namespace Path

theorem segments_ne_nil (path : String) : segments path ≠ [] := by
  unfold segments
  cases found : Text.fields '.' path.toList with
  | nil => exact absurd found (Text.fields_ne_nil _ _)
  | cons part others => simp [partSegments]

theorem segments_append (first second : String) :
    segments (first ++ "." ++ second) = segments first ++ segments second := by
  have chars : (first ++ "." ++ second).toList = first.toList ++ '.' :: second.toList := by simp
  simp [segments, chars, Text.fields_append]

/-- The segments of paths with points between them are those of each in turn. -/
theorem segments_intercalate {paths : List String} (nonempty : paths ≠ []) :
    segments (".".intercalate paths) = paths.flatMap segments := by
  induction paths with
  | nil => exact absurd rfl nonempty
  | cons path others ih =>
      cases others with
      | nil => simp
      | cons next others =>
          rw [String.intercalate_cons_cons, segments_append, ih (List.cons_ne_nil next others)]
          rfl

/-- Whether a text has neither a point nor an opening bracket, as the names in paths do. -/
def Plain (name : String) : Prop :=
  '.' ∉ name.toList ∧ '[' ∉ name.toList

instance (name : String) : Decidable (Plain name) :=
  inferInstanceAs (Decidable (_ ∧ _))

theorem takeWhile_of_free {c : Char} {front : List Char} (free : c ∉ front) (back : List Char) :
    (front ++ c :: back).takeWhile (· != c) = front ∧
      (front ++ c :: back).dropWhile (· != c) = c :: back := by
  have passes : ∀ other ∈ front, (other != c) = true := by
    intro other member
    rw [bne_iff_ne]
    rintro rfl
    exact free member
  rw [List.takeWhile_append_of_pos passes, List.dropWhile_append_of_pos passes]
  simp

theorem partSegments_of_plain {name : String} (plain : Plain name) :
    partSegments name.toList = [name.toList] := by
  have passes : ∀ c ∈ name.toList, (c != '[') = true := by
    intro c member
    rw [bne_iff_ne]
    rintro rfl
    exact plain.2 member
  rw [partSegments, List.takeWhile_eq_self_iff.mpr passes, List.dropWhile_eq_nil_iff.mpr passes]
  cases name.toList.length <;> rfl

theorem segments_of_plain {name : String} (plain : Plain name) : segments name = [name] := by
  simp [segments, Text.fields_of_free plain.1, partSegments_of_plain plain]

/-- The name that a path starts with has neither a point nor an opening bracket. -/
theorem plain_of_segments {path root : String} {rest : List String}
    (parts : segments path = root :: rest) : Plain root := by
  unfold segments at parts
  cases cut : Text.fields '.' path.toList with
  | nil => exact absurd cut (Text.fields_ne_nil _ _)
  | cons part others =>
      rw [cut, List.flatMap_cons, partSegments, List.cons_append, List.map_cons] at parts
      obtain ⟨rfl, -⟩ := List.cons.inj parts
      have free : '.' ∉ part := Text.free_of_mem_fields (cut ▸ List.mem_cons_self)
      rw [Plain, String.toList_ofList]
      refine ⟨fun member => free ((List.takeWhile_prefix _).subset member), ?_⟩
      intro member
      have passes := List.mem_takeWhile_imp member
      simp at passes

/-- What stands under a text that is no name is not met on the path that this text is. -/
theorem resolve_insert_of_not_plain {path : String} (joined : ¬Plain path) (entries : Table Value)
    (value : Value) : resolve (Table.insert entries path value) path = resolve entries path := by
  unfold resolve
  cases parts : segments path with
  | nil => rfl
  | cons root rest =>
      have other : path ≠ root := by
        rintro rfl
        exact joined (plain_of_segments parts)
      simp only [Table.get?_insert_of_ne entries value other]

section

variable {current : Value}

theorem follow_cons_of_missing {segment : String} (missing : step current segment = .missing)
    (rest : List String) : follow current (segment :: rest) = .null := by
  simp [follow, missing]

/-- Segments behind others are followed from where those lead.  A length among the first ones would
have to end the path, and nothing can be read from the number or the null that is there instead. -/
theorem follow_append {first second : List String} (nonempty : second ≠ []) :
    follow current (first ++ second) = follow (follow current first) second := by
  obtain ⟨next, others, rfl⟩ := List.exists_cons_of_ne_nil nonempty
  have stuck : ∀ value : Value, step value next = .missing →
      .null = follow value (next :: others) :=
    fun value missing => (follow_cons_of_missing missing others).symm
  induction first generalizing current with
  | nil => rfl
  | cons segment rest ih =>
      cases led : step current segment with
      | into value => simpa [follow, led] using ih
      | length count =>
          have behind : follow current (segment :: rest ++ next :: others) = .null := by
            simp [follow, led]
          rw [behind]
          cases rest with
          | nil => simpa [follow, led] using stuck (.ofNat count) rfl
          | cons => simpa [follow, led] using stuck .null rfl
      | missing =>
          rw [List.cons_append, follow_cons_of_missing led, follow_cons_of_missing led]
          exact stuck .null rfl

theorem follow_object (entries : Table Value) (path : String) :
    follow (.object entries) (segments path) = resolve entries path := by
  unfold resolve
  cases parts : segments path with
  | nil => exact absurd parts (segments_ne_nil path)
  | cons root rest =>
      cases found : Table.get? entries root <;> simp [follow, step, found]

end

section

variable (bindings : Table Value)

theorem resolve_append (first second : String) :
    resolve bindings (first ++ "." ++ second) =
      follow (resolve bindings first) (segments second) := by
  have nonempty := segments_ne_nil second
  rw [resolve, segments_append]
  cases parts : segments first with
  | nil => exact absurd parts (segments_ne_nil first)
  | cons root rest =>
      simp only [List.cons_append, resolve, parts]
      cases found : Table.get? bindings root with
      | some value => exact follow_append nonempty
      | none =>
          obtain ⟨next, others, equal⟩ := List.exists_cons_of_ne_nil nonempty
          rw [equal]
          exact (follow_cons_of_missing rfl others).symm

theorem resolve_of_plain {name : String} (plain : Plain name) :
    resolve bindings name = (Table.get? bindings name).getD .null := by
  unfold resolve
  rw [segments_of_plain plain]
  cases found : Table.get? bindings name <;> simp [follow, found]

/-- A path and another one behind a point lead where the other one leads from a name that is bound
to what the first one reaches, whatever characters the two have and whatever is met on the way. -/
theorem resolve_composes (first second : String) {name : String} (plain : Plain name) :
    resolve bindings (first ++ "." ++ second) =
      resolve [(name, resolve bindings first)] (name ++ "." ++ second) := by
  have bound : resolve [(name, resolve bindings first)] name = resolve bindings first := by
    simp [resolve_of_plain _ plain, Table.get?]
  rw [resolve_append, resolve_append, bound]

end

/-- A length in the middle, an index that is not closed and the one behind a point. -/
theorem resolve_composes_length :
    let bindings : Table Value := [("a", .array [.object [("length", .array [.null, .null])]])]
    Plain "x" ∧
      resolve bindings ("a[0" ++ "." ++ "length.length") = .ofNat 2 ∧
      resolve [("x", resolve bindings "a[0")] ("x" ++ "." ++ "length.length") = .ofNat 2 ∧
      resolve bindings ("a.length" ++ "." ++ "y") = .null ∧
      resolve [("x", resolve bindings "a.length")] ("x" ++ "." ++ "y") = .null := by
  intro bindings
  have plain : Plain "x" := by decide
  have inner : resolve bindings ("a[0" ++ "." ++ "length.length") = .ofNat 2 := rfl
  have outer : resolve bindings ("a.length" ++ "." ++ "y") = .null := rfl
  refine ⟨plain, inner, ?_, outer, ?_⟩
  · rw [← resolve_composes bindings "a[0" "length.length" plain]
    exact inner
  · rw [← resolve_composes bindings "a.length" "y" plain]
    exact outer

/-- A part of a path: a name, and the indices behind it. -/
structure Part where
  name : String
  indices : List String
  plain : Plain name
  closed : ∀ index ∈ indices, '.' ∉ index.toList ∧ ']' ∉ index.toList

/-- Indices, each between brackets. -/
def bracketed : List String → String
  | [] => ""
  | index :: rest => "[" ++ index ++ "]" ++ bracketed rest

namespace Part

def text (part : Part) : String :=
  part.name ++ bracketed part.indices

def flat (part : Part) : List String :=
  part.name :: part.indices

end Part

def written (parts : List Part) : String :=
  ".".intercalate (parts.map Part.text)

theorem toList_bracketed_cons (index : String) (rest : List String) :
    (bracketed (index :: rest)).toList =
      '[' :: (index.toList ++ ']' :: (bracketed rest).toList) := by
  simp [bracketed]

theorem point_not_mem_bracketed {names : List String} (free : ∀ index ∈ names, '.' ∉ index.toList) :
    '.' ∉ (bracketed names).toList := by
  induction names with
  | nil => simp [bracketed]
  | cons index rest ih =>
      obtain ⟨here, others⟩ := List.forall_mem_cons.mp free
      simp [toList_bracketed_cons, here, ih others]

/-- Indices between brackets are read again, whatever opening brackets are in them. -/
theorem indices_bracketed {names : List String} (closed : ∀ index ∈ names, ']' ∉ index.toList)
    {fuel : Nat} (enough : (bracketed names).toList.length ≤ fuel) :
    indices fuel (bracketed names).toList = names.map String.toList := by
  induction names generalizing fuel with
  | nil => cases fuel <;> rfl
  | cons index rest ih =>
      obtain ⟨here, others⟩ := List.forall_mem_cons.mp closed
      rw [toList_bracketed_cons] at enough ⊢
      obtain ⟨fuel, rfl⟩ : ∃ less, fuel = less + 1 := by
        cases fuel with
        | zero => simp at enough
        | succ less => exact ⟨less, rfl⟩
      obtain ⟨taken, dropped⟩ := takeWhile_of_free here (bracketed rest).toList
      have less : (bracketed rest).toList.length ≤ fuel := by
        simp at enough
        omega
      simp [indices, taken, dropped, ih others less]

theorem Part.segments_text (part : Part) : segments part.text = part.flat := by
  obtain ⟨name, names, plain, closed⟩ := part
  have free : '.' ∉ (name ++ bracketed names).toList := by
    rw [String.toList_append, List.mem_append]
    exact not_or.mpr
      ⟨plain.1, point_not_mem_bracketed fun index member => (closed index member).1⟩
  have read : partSegments (name ++ bracketed names).toList =
      name.toList :: names.map String.toList := by
    have again := @indices_bracketed names (fun index member => (closed index member).2)
    rw [String.toList_append]
    cases names with
    | nil => simpa [bracketed] using partSegments_of_plain plain
    | cons index rest =>
        rw [toList_bracketed_cons] at again ⊢
        obtain ⟨taken, dropped⟩ := takeWhile_of_free plain.2 _
        rw [partSegments, taken, dropped, again (by simp)]
  change segments (name ++ bracketed names) = name :: names
  rw [segments, Text.fields_of_free free, List.flatMap_singleton, read]
  simp

theorem segments_dotted {names : List String} (nonempty : names ≠ [])
    (plain : ∀ name ∈ names, Plain name) : segments (".".intercalate names) = names := by
  rw [segments_intercalate nonempty]
  have single : names.map segments = names.map fun name => [name] :=
    List.map_congr_left fun name member => segments_of_plain (plain name member)
  rw [List.flatMap_def, single, ← List.flatMap_def, List.flatMap_singleton']

theorem segments_written {parts : List Part} (nonempty : parts ≠ []) :
    segments (written parts) = parts.flatMap Part.flat := by
  have texts : parts.map Part.text ≠ [] := mt List.map_eq_nil_iff.mp nonempty
  have same : segments ∘ Part.text = Part.flat := funext Part.segments_text
  rw [written, segments_intercalate texts, List.flatMap_map]
  exact congrArg parts.flatMap same

/-- A path that is written from parts is taken apart into their names and indices, in order.  So
where no index has an opening bracket it makes no difference to what a path reaches whether an index
stands between brackets or behind a point. -/
theorem segments_of_parts {parts : List Part} (nonempty : parts ≠ []) :
    segments (written parts) = parts.flatMap Part.flat ∧
      ((∀ part ∈ parts, ∀ index ∈ part.indices, '[' ∉ index.toList) → ∀ bindings,
        resolve bindings (written parts) =
          resolve bindings (".".intercalate (parts.flatMap Part.flat))) := by
  have read := segments_written nonempty
  refine ⟨read, ?_⟩
  intro free bindings
  have plain : ∀ name ∈ parts.flatMap Part.flat, Plain name := by
    intro name member
    obtain ⟨part, among, member⟩ := List.mem_flatMap.mp member
    rcases List.mem_cons.mp member with rfl | member
    · exact part.plain
    · exact ⟨(part.closed name member).1, free part among name member⟩
  have flattened : parts.flatMap Part.flat ≠ [] := read ▸ segments_ne_nil _
  rw [resolve, resolve, read, segments_dotted flattened plain]

/-- A name ends in a closing bracket, one is empty, so is an index, and another one has an opening
bracket; without that one the two spellings reach the same value. -/
theorem segments_of_parts_odd :
    let first : Part := ⟨"a]", ["0", ""], by decide, by decide⟩
    let second : Part := ⟨"", ["1"], by decide, by decide⟩
    let third : Part := ⟨"b", ["c[d"], by decide, by decide⟩
    [first, second, third] ≠ [] ∧
      written [first, second, third] = "a][0][].[1].b[c[d]" ∧
      segments "a][0][].[1].b[c[d]" = ["a]", "0", "", "", "1", "b", "c[d"] ∧
      (∀ part ∈ [first, second], ∀ index ∈ part.indices, '[' ∉ index.toList) ∧
      ∀ bindings, resolve bindings "a][0][].[1]" = resolve bindings "a].0...1" := by
  intro first second third
  have all : [first, second, third] ≠ [] := List.cons_ne_nil _ _
  have two : [first, second] ≠ [] := List.cons_ne_nil _ _
  have free : ∀ part ∈ [first, second], ∀ index ∈ part.indices, '[' ∉ index.toList := by
    simp only [List.forall_mem_cons, first, second]
    decide
  refine ⟨all, rfl, ?_, free, ?_⟩
  · exact (segments_of_parts all).1
  · exact (segments_of_parts two).2 free

end Path

end Reckon
