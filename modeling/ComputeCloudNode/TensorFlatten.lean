import ComputeCloudNode.TensorRoundTrip

/-! The loop of `_flatten` on its own stack, whose end is the top: the items of a list
are pushed in reverse. Every round takes a list or a leaf off the stack, so the loop ends
after as many rounds as there are lists and leaves, and what is off the stack are the
leaves before those on it. -/
namespace ComputeCloudNode.TensorFormat

variable {F : Type} [PyRuntime F]

/-- The rounds of the loop: what it returned, if so many were enough. -/
def flattenRounds : Nat → List (Value F) → List (Value F) → Option (Except String (List (Value F)))
  | 0, stack, out => if stack.isEmpty then some (.ok out) else none
  | rounds + 1, stack, out =>
    match stack.getLast? with
    | none => some (.ok out)
    | some (.list items) => flattenRounds rounds (stack.dropLast ++ items.reverse) out
    | some item =>
      match number item with
      | .error text => some (.error text)
      | .ok leaf => flattenRounds rounds stack.dropLast (out ++ [leaf])

omit [PyRuntime F] in
/-- A number or a boolean. -/
def Numeric : Value F → Prop
  | .bool _ | .int _ | .float _ => True
  | _ => False

omit [PyRuntime F] in
/-- A boolean as 0 or 1. -/
def asNumeric : Value F → Value F
  | .bool b => .int (if b then 1 else 0)
  | v => v

variable {stack out : List (Value F)} {rounds : Nat} {item : Value F}

theorem number_numeric (numeric : Numeric item) : number item = .ok (asNumeric item) := by
  cases item with
  | bool | int | float => rfl
  | null | str | list | dict => cases numeric

theorem number_other (other : ¬ Numeric item) : ∃ text, number item = .error text := by
  cases item with
  | bool | int | float => exact absurd trivial other
  | null | str | list | dict => exact ⟨_, rfl⟩

/-! ### A round -/

theorem flattenRounds_list (items : List (Value F)) : flattenRounds (rounds + 1) (stack ++ [.list items]) out =
    flattenRounds rounds (stack ++ items.reverse) out := by
  rw [flattenRounds, List.getLast?_concat, List.dropLast_concat]

theorem flattenRounds_refused {text : String} (leaf : ∀ items, item ≠ .list items) (refused : number item = .error text) :
    flattenRounds (rounds + 1) (stack ++ [item]) out = some (.error text) := by
  rw [flattenRounds, List.getLast?_concat]
  cases item with
  | list items => exact absurd rfl (leaf items)
  | null | bool | int | float | str | dict => simp only [refused]

theorem flattenRounds_accepted {appended : Value F} (leaf : ∀ items, item ≠ .list items)
    (accepted : number item = .ok appended) :
    flattenRounds (rounds + 1) (stack ++ [item]) out = flattenRounds rounds stack (out ++ [appended]) := by
  rw [flattenRounds, List.getLast?_concat, List.dropLast_concat]
  cases item with
  | list items => exact absurd rfl (leaf items)
  | null | bool | int | float | str | dict => simp only [accepted]

/-! ### The loop -/

/-- With a round for every list and every leaf on the stack the loop ends, and computes
what the recursion over the stack does. -/
theorem flattenRounds_eq (enough : nodesOf stack ≤ rounds) :
    flattenRounds rounds stack.reverse out = some (flattenLoop stack out) := by
  fun_induction flattenLoop stack out generalizing rounds with
  | case1 out => cases rounds <;> simp [flattenRounds]
  | case2 items stack out ih =>
    rw [nodesOf, nodes] at enough
    obtain ⟨rounds, rfl⟩ := Nat.exists_eq_add_one_of_ne_zero (show rounds ≠ 0 by omega)
    rw [List.reverse_cons, flattenRounds_list, ← List.reverse_append]
    apply ih
    rw [nodesOf_append]
    omega
  | case3 item stack out leaf text refused =>
    have size := nodes_pos item
    rw [nodesOf] at enough
    obtain ⟨rounds, rfl⟩ := Nat.exists_eq_add_one_of_ne_zero (show rounds ≠ 0 by omega)
    rw [List.reverse_cons, flattenRounds_refused leaf refused]
  | case4 item stack out leaf appended accepted ih =>
    have size := nodes_pos item
    rw [nodesOf] at enough
    obtain ⟨rounds, rfl⟩ := Nat.exists_eq_add_one_of_ne_zero (show rounds ≠ 0 by omega)
    rw [List.reverse_cons, flattenRounds_accepted leaf accepted]
    apply ih
    omega

theorem mapM_number_numeric {items : List (Value F)} (numeric : ∀ leaf ∈ items, Numeric leaf) :
    items.mapM number = .ok (items.map asNumeric) := by
  rw [Fallible.mapM_eq_ok_iff, List.forall₂_map_right_iff, List.forall₂_same]
  exact fun leaf member => number_numeric (numeric leaf member)

theorem mapM_number_other {items : List (Value F)} (other : ∃ leaf ∈ items, ¬ Numeric leaf) :
    ∃ text, items.mapM number = .error text := by
  cases mapped : items.mapM number with
  | error text => exact ⟨text, rfl⟩
  | ok numbers =>
    obtain ⟨leaf, member, strange⟩ := other
    obtain ⟨text, refused⟩ := number_other strange
    obtain ⟨_, _, accepted⟩ := Fallible.mapM_mem_ok mapped member
    rw [refused] at accepted
    cases accepted

/-- The loop ends on every nested list. It returns the leaves from left to right, booleans
as 0 or 1, or raises if one of them is no number. -/
theorem flatten_row_major (nested : Value F) :
    ∃ result, (∀ rounds, nodes nested ≤ rounds → flattenRounds rounds [nested] [] = some result) ∧
      flatten nested = result ∧
      ((∀ leaf ∈ leaves nested, Numeric leaf) → result = .ok ((leaves nested).map asNumeric)) ∧
      ((∃ leaf ∈ leaves nested, ¬ Numeric leaf) → ∃ text, result = .error text) := by
  refine ⟨flatten nested, fun rounds enough => ?_, rfl, fun numeric => ?_, fun other => ?_⟩
  · have ended : flattenRounds rounds [nested].reverse [] = some (flattenLoop [nested] []) := flattenRounds_eq enough
    exact ended
  · rw [flatten_eq, mapM_number_numeric numeric]
  · rw [flatten_eq]
    exact mapM_number_other other

example : flattenRounds 8 [.list [.list [.int 1, .bool true], .list [], .int (-2)]] [] =
    some (.ok [.int 1, .int 1, (.int (-2) : Value Int)]) := rfl

end ComputeCloudNode.TensorFormat
