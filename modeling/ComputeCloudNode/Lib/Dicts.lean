import Mathlib.Data.List.Basic

/-! A dict as the list of its items, in the order in which the keys were inserted.
The first item of a key is the one that counts. -/
namespace Dicts

variable {α β : Type} [DecidableEq α]

/-- `d[key] = value`. -/
def set (key : α) (value : β) : List (α × β) → List (α × β)
  | [] => [(key, value)]
  | (other, old) :: rest => if other = key then (key, value) :: rest else (other, old) :: set key value rest

/-- `d.setdefault(key, value)`. -/
def setDefault (key : α) (value : β) (d : List (α × β)) : List (α × β) :=
  if (d.lookup key).isSome then d else set key value d

@[simp] theorem lookup_set_self (key : α) (value : β) (d : List (α × β)) :
    (set key value d).lookup key = some value := by
  induction d with
  | nil => simp [set]
  | cons item rest ih =>
    obtain ⟨other, old⟩ := item
    by_cases same : other = key
    · simp [set, same]
    · have differs : (key == other) = false := beq_false_of_ne (Ne.symm same)
      simp [set, same, List.lookup_cons, differs, ih]

theorem lookup_set_ne {key other : α} (differs : other ≠ key) (value : β) (d : List (α × β)) :
    (set key value d).lookup other = d.lookup other := by
  induction d with
  | nil => simp [set, List.lookup_cons, beq_false_of_ne differs]
  | cons item rest ih =>
    obtain ⟨first, old⟩ := item
    by_cases same : first = key
    · subst same
      simp [set, List.lookup_cons, beq_false_of_ne differs]
    · simp [set, same, List.lookup_cons, ih]

theorem lookup_setDefault_ne {key other : α} (differs : other ≠ key) (value : β) (d : List (α × β)) :
    (setDefault key value d).lookup other = d.lookup other := by
  unfold setDefault
  split
  · rfl
  · exact lookup_set_ne differs value d

/-- The order of the items does not matter as long as no key is there twice. -/
theorem lookup_perm {d d' : List (α × β)} (reordered : d.Perm d') (distinct : (d.map Prod.fst).Nodup) (key : α) :
    d.lookup key = d'.lookup key := by
  induction reordered with
  | nil => rfl
  | cons item _ ih =>
    rw [List.lookup_cons, List.lookup_cons, ih (List.nodup_cons.mp distinct).2]
  | swap first second rest =>
    have differ : second.1 ≠ first.1 := by
      intro same
      simp [same] at distinct
    obtain ⟨first, firstValue⟩ := first
    obtain ⟨second, secondValue⟩ := second
    by_cases here : key = second
    · subst here
      simp [List.lookup_cons, beq_false_of_ne differ]
    · simp [List.lookup_cons, beq_false_of_ne here]
  | trans earlier later ih ih' =>
    rw [ih distinct, ih' ((earlier.map Prod.fst).nodup_iff.mp distinct)]

end Dicts
