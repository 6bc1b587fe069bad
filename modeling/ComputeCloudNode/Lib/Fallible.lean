import Mathlib.Data.List.Forall2

/-! Computations in `Except` read backwards: what must have succeeded when the
whole computation did. With these equivalences a `do` block that returned is taken
apart step by step. -/
namespace Fallible

variable {ε α β : Type}

theorem bind_eq_ok_iff {x : Except ε α} {f : α → Except ε β} {b : β} :
    x >>= f = .ok b ↔ ∃ a, x = .ok a ∧ f a = .ok b := by
  cases x with
  | error e => exact ⟨nofun, fun ⟨_, failed, _⟩ => nomatch failed⟩
  | ok a =>
    constructor
    · exact fun ran => ⟨a, rfl, ran⟩
    · rintro ⟨_, same, ran⟩
      cases same
      exact ran

theorem bind_ok {a : α} {f : α → Except ε β} : (Except.ok a >>= f) = f a := rfl

theorem pure_eq_ok_iff {a b : α} : (pure a : Except ε α) = .ok b ↔ a = b :=
  ⟨Except.ok.inj, congrArg Except.ok⟩

theorem toOption_eq_some_iff {x : Except ε α} {a : α} : x.toOption = some a ↔ x = .ok a := by
  cases x with
  | error e => exact ⟨nofun, nofun⟩
  | ok b => exact ⟨fun same => congrArg Except.ok (Option.some.inj same), fun same => congrArg some (Except.ok.inj same)⟩

theorem toOption_eq_none_iff {x : Except ε α} : x.toOption = none ↔ ∃ e, x = .error e := by
  cases x with
  | error e => exact ⟨fun _ => ⟨e, rfl⟩, fun _ => rfl⟩
  | ok b => exact ⟨nofun, fun ⟨_, failed⟩ => nomatch failed⟩

theorem toOption_map {f : α → β} {x : Except ε α} : (x.map f).toOption = x.toOption.map f := by
  cases x <;> rfl

/-- A list is processed element by element. -/
theorem mapM_eq_ok_iff {f : α → Except ε β} {xs : List α} {ys : List β} :
    xs.mapM f = .ok ys ↔ List.Forall₂ (fun x y => f x = .ok y) xs ys := by
  induction xs generalizing ys with
  | nil =>
    rw [List.mapM_nil, pure_eq_ok_iff, List.forall₂_nil_left_iff]
    exact eq_comm
  | cons x xs ih =>
    rw [List.mapM_cons, List.forall₂_cons_left_iff]
    simp only [bind_eq_ok_iff, pure_eq_ok_iff, ih]
    constructor
    · rintro ⟨y, here, rest, below, rfl⟩
      exact ⟨y, rest, here, below, rfl⟩
    · rintro ⟨y, rest, here, below, rfl⟩
      exact ⟨y, here, rest, below, rfl⟩

theorem mapM_length {f : α → Except ε β} {xs : List α} {ys : List β} (mapped : xs.mapM f = .ok ys) :
    ys.length = xs.length :=
  (mapM_eq_ok_iff.mp mapped).length_eq.symm

theorem mapM_mem_ok {f : α → Except ε β} {xs : List α} {ys : List β} (mapped : xs.mapM f = .ok ys) {x : α}
    (member : x ∈ xs) : ∃ y ∈ ys, f x = .ok y := by
  induction mapM_eq_ok_iff.mp mapped with
  | nil => cases member
  | cons here below ih =>
    rcases List.mem_cons.mp member with rfl | later
    · exact ⟨_, List.mem_cons_self, here⟩
    · obtain ⟨y, listed, accepted⟩ := ih (mapM_eq_ok_iff.mpr below) later
      exact ⟨y, List.mem_cons_of_mem _ listed, accepted⟩

/-- Two loops agree when their steps do. -/
theorem foldlM_congr {f g : β → α → Except ε β} {xs : List α} (same : ∀ x ∈ xs, ∀ state, f state x = g state x)
    (state : β) : xs.foldlM f state = xs.foldlM g state := by
  induction xs generalizing state with
  | nil => rfl
  | cons x xs ih =>
    obtain ⟨here, rest⟩ := List.forall_mem_cons.mp same
    rw [List.foldlM_cons, List.foldlM_cons, here]
    exact bind_congr fun state => ih rest state

end Fallible
