import Reckon.Proofs.Formula.Derivation

/-!
How expressions nest.  An outline keeps the nesting of a formula and the brackets that its tree
forgets, and nothing else; each formula that the grammar derives has one.
-/

namespace Reckon.Formula

inductive Outline
  /-- A literal, a path or a name. -/
  | plain
  /-- A unary operator before its operand. -/
  | unary (operand : Outline)
  /-- Parentheses, an array, an object or a call, with the expressions inside. -/
  | brackets (inside : List Outline)
  /-- An expression: its leading factor, and the right operands of the operators behind it.  What
  is spread into an object is one as well. -/
  | expression (first : Outline) (operands : List Outline)
  deriving Repr

namespace Outline

mutual

def depth : Outline → Nat
  | plain => 0
  | unary operand => operand.depth + 1
  | brackets inside => deepest inside
  | expression first operands => max first.depth (deepest operands) + 1

def deepest : List Outline → Nat
  | [] => 0
  | part :: others => max part.depth (deepest others)

end

theorem deepest_single (part : Outline) : deepest [part] = part.depth := Nat.max_zero part.depth

theorem add_deepest_cons (levels : Nat) (part : Outline) (others : List Outline) :
    levels + deepest (part :: others) =
      max (levels + deepest [part]) (levels + deepest others) := by
  rw [deepest_single, Nat.add_max_add_left]
  rfl

theorem add_deepest_brackets (levels : Nat) (inside : List Outline) :
    levels + deepest [brackets inside] = levels + deepest inside := by
  rw [deepest_single]
  rfl

theorem add_deepest_unary (levels : Nat) (operand : Outline) :
    levels + deepest [unary operand] = levels + 1 + deepest [operand] := by
  rw [deepest_single, deepest_single, depth]
  omega

theorem add_deepest_expression (levels : Nat) (first : Outline) (operands : List Outline) :
    levels + deepest [expression first operands] =
      max (levels + 1 + deepest [first]) (levels + 1 + deepest operands) := by
  rw [deepest_single, deepest_single, depth, Nat.add_max_add_left]
  omega

theorem exists_depth_eq_deepest {parts : List Outline} (nonempty : parts ≠ []) :
    ∃ part ∈ parts, part.depth = deepest parts := by
  induction parts with
  | nil => exact absurd rfl nonempty
  | cons part others ih =>
      rcases Nat.le_total (deepest others) part.depth with first | later
      · exact ⟨part, .head _, (Nat.max_eq_left first).symm⟩
      · by_cases last : others = []
        · subst last
          exact ⟨part, .head _, (Nat.max_zero part.depth).symm⟩
        · obtain ⟨deep, member, same⟩ := ih last
          exact ⟨deep, .tail _ member, same.trans (Nat.max_eq_right later).symm⟩

end Outline

/-- What has an outline: a part of a formula, or the rest of one. -/
inductive Part
  | expression (floor : Precedence)
  | tail (floor : Precedence)
  | unary (token : String)
  | elements
  | entries
  | entry
  | arguments

variable (registry : Registry) (tokens : Array String)

/-- The outlines of what stands between two positions, from left to right. -/
inductive Outlined : Part → List Outline → (start stop : Nat) → Prop
  | expression {floor : Precedence} {token : String} {first : Outline} {operands : List Outline}
      {start middle stop : Nat} (here : tokens[start]? = some token)
      (leading : Outlined (.unary token) [first] start middle)
      (rest : Outlined (.tail floor) operands middle stop) :
      Outlined (.expression floor) [.expression first operands] start stop
  | loose {floor : Precedence} {start : Nat} (loose : Loose registry tokens floor start) :
      Outlined (.tail floor) [] start start
  | tight {floor : Precedence} {symbol : String} {right : Outline} {operands : List Outline}
      {start middle stop : Nat} (here : tokens[start]? = some symbol)
      (registered : (registry.operator? symbol).isSome)
      (tight : ¬registry.precedence symbol < floor)
      (operand : Outlined (.expression (registry.precedence symbol).next) [right]
        (start + 1) middle)
      (rest : Outlined (.tail floor) operands middle stop) :
      Outlined (.tail floor) (right :: operands) start stop
  | unaryOperator {token next : String} {operand : Outline} {start stop : Nat}
      (kind : role registry token = .unaryOperator) (more : tokens[start + 1]? = some next)
      (inner : Outlined (.unary next) [operand] (start + 1) stop) :
      Outlined (.unary token) [.unary operand] start stop
  | parentheses {token : String} {whole : Outline} {start middle : Nat}
      (kind : role registry token = .parenthesis)
      (inner : Outlined (.expression 0) [whole] (start + 1) middle)
      (closed : tokens[middle]? = some ")") :
      Outlined (.unary token) [.brackets [whole]] start (middle + 1)
  | literal {token : String} {value : Value} {start : Nat}
      (kind : role registry token = .literal value) :
      Outlined (.unary token) [.plain] start (start + 1)
  | array {token : String} {inside : List Outline} {start stop : Nat}
      (kind : role registry token = .array) (rest : Outlined .elements inside (start + 1) stop) :
      Outlined (.unary token) [.brackets inside] start stop
  | object {token : String} {inside : List Outline} {start stop : Nat}
      (kind : role registry token = .object) (rest : Outlined .entries inside (start + 1) stop) :
      Outlined (.unary token) [.brackets inside] start stop
  | path {token : String} {start : Nat} (kind : role registry token = .path) :
      Outlined (.unary token) [.plain] start (start + 1)
  | call {token : String} {inside : List Outline} {start stop : Nat}
      (kind : role registry token = .function) (opened : tokens[start + 1]? = some "(")
      (rest : Outlined .arguments inside (start + 2) stop) :
      Outlined (.unary token) [.brackets inside] start stop
  | name {token : String} {start : Nat} (kind : role registry token = .name) :
      Outlined (.unary token) [.plain] start (start + 1)
  | lastElement {start : Nat} (closed : tokens[start]? = some "]") :
      Outlined .elements [] start (start + 1)
  | element {item : Outline} {others : List Outline} {start middle next stop : Nat}
      (more : tokens[start]? ≠ some "]") (first : Outlined (.expression 0) [item] start middle)
      (separated : (tokens[middle]? = some "," ∧ tokens[middle + 1]? ≠ some "]" ∧
        next = middle + 1) ∨ (tokens[middle]? = some "]" ∧ next = middle))
      (rest : Outlined .elements others next stop) : Outlined .elements (item :: others) start stop
  | lastEntry {item : Outline} {start middle : Nat} (first : Outlined .entry [item] start middle)
      (closed : tokens[middle]? = some "\x7d") : Outlined .entries [item] start (middle + 1)
  | moreEntries {item : Outline} {others : List Outline} {start middle stop : Nat}
      (first : Outlined .entry [item] start middle) (separated : tokens[middle]? = some ",")
      (rest : Outlined .entries others (middle + 1) stop) :
      Outlined .entries (item :: others) start stop
  | keyed {key : String} {value : Outline} {start stop : Nat} (here : tokens[start]? = some key)
      (plain : Grammar.spreadOperand? key = none) (identifier : Grammar.isIdentifier key = true)
      (colon : tokens[start + 1]? = some ":") (follows : Follows tokens (start + 2))
      (inner : Outlined (.expression 0) [value] (start + 2) stop) :
      Outlined .entry [value] start stop
  | spread {key token : String} {first : Outline} {operands : List Outline}
      {start middle stop : Nat} (here : tokens[start]? = some key)
      (spread : Grammar.spreadOperand? key = some token)
      (leading : Outlined (.unary token) [first] start middle)
      (rest : Outlined (.tail 0) operands middle stop) :
      Outlined .entry [.expression first operands] start stop
  | lastArgument {start : Nat} (closed : tokens[start]? = some ")") :
      Outlined .arguments [] start (start + 1)
  | argument {item : Outline} {others : List Outline} {start middle next stop : Nat}
      (more : tokens[start]? ≠ some ")") (first : Outlined (.expression 0) [item] start middle)
      (separated : (tokens[middle]? = some "," ∧ tokens[middle + 1]? ≠ some ")" ∧
        next = middle + 1) ∨ (tokens[middle]? ≠ some "," ∧ next = middle))
      (rest : Outlined .arguments others next stop) :
      Outlined .arguments (item :: others) start stop

/-- What a phrase is, without its tree. -/
def Phrase.part : Phrase → Part
  | expression floor _ => .expression floor
  | tail _ floor _ => .tail floor
  | unary token _ => .unary token
  | elements _ _ => .elements
  | entries _ _ => .entries
  | entry _ => .entry
  | arguments _ _ _ => .arguments

variable {registry tokens} {outlines : List Outline} {start stop : Nat}

theorem Outlined.single_expression {floor : Precedence}
    (outlined : Outlined registry tokens (.expression floor) outlines start stop) :
    ∃ outline, outlines = [outline] := by
  cases outlined
  exact ⟨_, rfl⟩

theorem Outlined.single_unary {token : String}
    (outlined : Outlined registry tokens (.unary token) outlines start stop) :
    ∃ outline, outlines = [outline] := by
  cases outlined <;> exact ⟨_, rfl⟩

theorem Outlined.single_entry (outlined : Outlined registry tokens .entry outlines start stop) :
    ∃ outline, outlines = [outline] := by
  cases outlined with
  | keyed => exact ⟨_, rfl⟩
  | spread => exact ⟨_, rfl⟩

theorem Derives.outlined {phrase : Phrase} (derived : Derives registry tokens phrase start stop) :
    ∃ outlines, Outlined registry tokens phrase.part outlines start stop := by
  induction derived with
  | expression here first rest firstFound restFound =>
      obtain ⟨outlines, leading⟩ := firstFound
      obtain ⟨operands, rest⟩ := restFound
      obtain ⟨first, rfl⟩ := leading.single_unary
      exact ⟨_, .expression here leading rest⟩
  | loose loose => exact ⟨_, .loose loose⟩
  | tight here registered tight operand rest operandFound restFound =>
      obtain ⟨outlines, operand⟩ := operandFound
      obtain ⟨operands, rest⟩ := restFound
      obtain ⟨right, rfl⟩ := operand.single_expression
      exact ⟨_, .tight here registered tight operand rest⟩
  | unaryOperator kind more inner innerFound =>
      obtain ⟨outlines, inner⟩ := innerFound
      obtain ⟨operand, rfl⟩ := inner.single_unary
      exact ⟨_, .unaryOperator kind more inner⟩
  | parentheses kind inner closed innerFound =>
      obtain ⟨outlines, inner⟩ := innerFound
      obtain ⟨whole, rfl⟩ := inner.single_expression
      exact ⟨_, .parentheses kind inner closed⟩
  | literal kind => exact ⟨_, .literal kind⟩
  | array kind rest restFound =>
      obtain ⟨inside, rest⟩ := restFound
      exact ⟨_, .array kind rest⟩
  | object kind rest restFound =>
      obtain ⟨inside, rest⟩ := restFound
      exact ⟨_, .object kind rest⟩
  | path kind => exact ⟨_, .path kind⟩
  | call kind opened rest restFound =>
      obtain ⟨inside, rest⟩ := restFound
      exact ⟨_, .call kind opened rest⟩
  | name kind => exact ⟨_, .name kind⟩
  | lastElement closed => exact ⟨_, .lastElement closed⟩
  | element more first separated rest firstFound restFound =>
      obtain ⟨outlines, first⟩ := firstFound
      obtain ⟨others, rest⟩ := restFound
      obtain ⟨item, rfl⟩ := first.single_expression
      exact ⟨_, .element more first separated rest⟩
  | lastEntry first closed firstFound =>
      obtain ⟨outlines, first⟩ := firstFound
      obtain ⟨item, rfl⟩ := first.single_entry
      exact ⟨_, .lastEntry first closed⟩
  | moreEntries first separated rest firstFound restFound =>
      obtain ⟨outlines, first⟩ := firstFound
      obtain ⟨others, rest⟩ := restFound
      obtain ⟨item, rfl⟩ := first.single_entry
      exact ⟨_, .moreEntries first separated rest⟩
  | keyed here plain identifier colon follows inner innerFound =>
      obtain ⟨outlines, inner⟩ := innerFound
      obtain ⟨value, rfl⟩ := inner.single_expression
      exact ⟨_, .keyed here plain identifier colon follows inner⟩
  | spread here spread first rest firstFound restFound =>
      obtain ⟨outlines, leading⟩ := firstFound
      obtain ⟨operands, rest⟩ := restFound
      obtain ⟨first, rfl⟩ := leading.single_unary
      exact ⟨_, .spread here spread leading rest⟩
  | lastArgument closed => exact ⟨_, .lastArgument closed⟩
  | argument more first separated rest firstFound restFound =>
      obtain ⟨outlines, first⟩ := firstFound
      obtain ⟨others, rest⟩ := restFound
      obtain ⟨item, rfl⟩ := first.single_expression
      exact ⟨_, .argument more first separated rest⟩

end Reckon.Formula
