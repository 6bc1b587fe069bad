import Mathlib.Data.List.Basic

/-! Causal maps on sequences. A machine reads one element at a time, answers it
and changes its state; `run` feeds it a whole sequence. Feeding a sequence in
pieces is the same as feeding it at once (`run_append`), also for several
machines in a row when each piece passes all of them before the next piece
enters (`layered_append`). -/
namespace Mealy

variable {σ α β γ : Type*}

abbrev Machine (σ α β : Type*) := σ → α → β × σ

/-- Feed the elements in order, collecting the answers. -/
def run (machine : Machine σ α β) : σ → List α → List β × σ
  | state, [] => ([], state)
  | state, x :: xs =>
    let rest := run machine (machine state x).2 xs
    ((machine state x).1 :: rest.1, rest.2)

variable {machine : Machine σ α β} {state : σ}

@[simp] theorem run_nil : run machine state [] = ([], state) := rfl

@[simp] theorem run_cons {x : α} {xs : List α} : run machine state (x :: xs) =
    ((machine state x).1 :: (run machine (machine state x).2 xs).1,
      (run machine (machine state x).2 xs).2) := rfl

theorem run_append (xs ys : List α) : run machine state (xs ++ ys) =
    ((run machine state xs).1 ++ (run machine (run machine state xs).2 ys).1,
      (run machine (run machine state xs).2 ys).2) := by
  induction xs generalizing state with
  | nil => rfl
  | cons x xs ih => simp only [List.cons_append, run_cons, ih]

theorem run_length (machine : Machine σ α β) (state : σ) (xs : List α) :
    (run machine state xs).1.length = xs.length := by
  induction xs generalizing state with
  | nil => rfl
  | cons x xs ih => simp only [run_cons, List.length_cons, ih]

/-- Preparing the elements first is part of the machine. -/
theorem run_map (prepare : γ → α) (xs : List γ) :
    run machine state (xs.map prepare) = run (fun state x => machine state (prepare x)) state xs := by
  induction xs generalizing state with
  | nil => rfl
  | cons x xs ih => simp only [List.map_cons, run_cons, ih]

/-- So is combining every element with its answer. -/
theorem run_zipWith {δ : Type*} (combine : α → β → δ) (xs : List α) :
    (List.zipWith combine xs (run machine state xs).1, (run machine state xs).2) =
      run (fun state x => (combine x (machine state x).1, (machine state x).2)) state xs := by
  induction xs generalizing state with
  | nil => rfl
  | cons x xs ih => simp only [run_cons, List.zipWith_cons_cons, ← ih]

/-- A measure of the state that grows by one with every element. -/
theorem run_measure {measure : σ → Nat} (grows : ∀ state x, measure (machine state x).2 = measure state + 1)
    (xs : List α) : measure (run machine state xs).2 = measure state + xs.length := by
  induction xs generalizing state with
  | nil => rfl
  | cons x xs ih =>
    simp only [run_cons, List.length_cons, ih, grows]
    omega

/-- What every step keeps holds after the run. -/
theorem run_kept {I : σ → Prop} (kept : ∀ state x, I state → I (machine state x).2)
    (holds : I state) (xs : List α) : I (run machine state xs).2 := by
  induction xs generalizing state with
  | nil => exact holds
  | cons x xs ih => exact ih (kept state x holds)

/-- A relation of states that the steps keep, with equal answers, is kept by runs
with equal answers. -/
theorem run_sim {τ : Type*} {first : Machine σ α β} {second : Machine τ α β} {R : σ → τ → Prop}
    (simulated : ∀ s t x, R s t → (first s x).1 = (second t x).1 ∧ R (first s x).2 (second t x).2)
    {s : σ} {t : τ} (related : R s t) (xs : List α) :
    (run first s xs).1 = (run second t xs).1 ∧ R (run first s xs).2 (run second t xs).2 := by
  induction xs generalizing s t with
  | nil => exact ⟨rfl, related⟩
  | cons x xs ih =>
    obtain ⟨answer, next⟩ := simulated s t x related
    obtain ⟨answers, final⟩ := ih next
    exact ⟨by simp only [run_cons, answer, answers], final⟩

/-- A sequence passes the machines one after the other, each with its own state. -/
def layered : List (Machine σ α α) → List σ → List α → List α × List σ
  | machine :: machines, state :: states, xs =>
    let here := run machine state xs
    let rest := layered machines states here.1
    (rest.1, here.2 :: rest.2)
  | _, _, xs => (xs, [])

variable {machines : List (Machine σ α α)} {states : List σ}

@[simp] theorem layered_nil {xs : List α} : layered [] states xs = (xs, []) := by
  simp only [layered]

@[simp] theorem layered_cons {first : Machine σ α α} {xs : List α} :
    layered (first :: machines) (state :: states) xs =
      ((layered machines states (run first state xs).1).1,
        (run first state xs).2 :: (layered machines states (run first state xs).1).2) := rfl

/-- Two pieces of a sequence may pass all machines one after the other. -/
theorem layered_append (xs ys : List α) : layered machines states (xs ++ ys) =
    ((layered machines states xs).1 ++ (layered machines (layered machines states xs).2 ys).1,
      (layered machines (layered machines states xs).2 ys).2) := by
  induction machines generalizing states xs ys with
  | nil => simp only [layered_nil]
  | cons machine machines ih =>
    cases states with
    | nil => simp only [layered]
    | cons state states =>
      simp only [layered_cons]
      rw [run_append, ih]

theorem layered_empty (same : states.length = machines.length) :
    layered machines states [] = ([], states) := by
  induction machines generalizing states with
  | nil =>
    cases states with
    | nil => rfl
    | cons => cases same
  | cons machine machines ih =>
    cases states with
    | nil => cases same
    | cons state states =>
      simp only [layered_cons, run_nil, ih (Nat.succ.inj same)]

theorem layered_length (machines : List (Machine σ α α)) (states : List σ) (xs : List α) :
    (layered machines states xs).1.length = xs.length := by
  induction machines generalizing states xs with
  | nil => simp only [layered_nil]
  | cons machine machines ih =>
    cases states with
    | nil => simp only [layered]
    | cons state states => rw [layered_cons, ih, run_length]

theorem layered_states_length (same : states.length = machines.length) (xs : List α) :
    (layered machines states xs).2.length = machines.length := by
  induction machines generalizing states xs with
  | nil => simp only [layered_nil, List.length_nil]
  | cons machine machines ih =>
    cases states with
    | nil => cases same
    | cons state states =>
      simp only [layered_cons, List.length_cons, ih (Nat.succ.inj same)]

/-- Every state of a layered run grows by the length of the sequence. -/
theorem layered_measure {measure : σ → Nat}
    (grows : ∀ machine ∈ machines, ∀ state x, measure (machine state x).2 = measure state + 1)
    {size : Nat} (sized : ∀ state ∈ states, measure state = size) (xs : List α) :
    ∀ state ∈ (layered machines states xs).2, measure state = size + xs.length := by
  induction machines generalizing states xs with
  | nil => simp only [layered_nil, List.not_mem_nil, false_implies, implies_true]
  | cons machine machines ih =>
    cases states with
    | nil => simp only [layered, List.not_mem_nil, false_implies, implies_true]
    | cons state states =>
      obtain ⟨here, below⟩ := List.forall_mem_cons.mp grows
      obtain ⟨first, others⟩ := List.forall_mem_cons.mp sized
      have rest := ih below others (run machine state xs).1
      rw [run_length] at rest
      rw [layered_cons]
      exact List.forall_mem_cons.mpr ⟨by rw [run_measure here, first], rest⟩

end Mealy
