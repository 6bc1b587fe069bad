import Mathlib.Data.List.Basic
import Mathlib.Data.List.Forall2

/-! Machines that read a list in pieces, each piece from the state that the last one
left. A chain of such machines is one, and its machines may be run one by one. A loop
that reads back what it has just picked needs only the new items: it picks what the loop
that starts over with all items picks. -/

universe u v w

/-- A partial machine that reads lists. It may be fed in pieces, from a valid state. -/
structure Resumable (σ : Type u) (α : Type v) (β : Type w) where
  run : σ → List α → Option (List β × σ)
  Valid : σ → Prop
  run_nil : ∀ {s}, Valid s → run s [] = some ([], s)
  run_append : ∀ {s}, Valid s → ∀ xs ys, run s (xs ++ ys) = (run s xs).bind fun read =>
    (run read.2 ys).map fun rest => (read.1 ++ rest.1, rest.2)
  valid_run : ∀ {s xs ys t}, Valid s → run s xs = some (ys, t) → Valid t
  length_run : ∀ {s xs ys t}, Valid s → run s xs = some (ys, t) → ys.length = xs.length

namespace Resumable

variable {σ : Type u} {α : Type v} {β γ : Type w} {ρ : Type u}

/-! ### Chains -/

/-- The second machine reads what the first one answers. -/
def andThen (first : Resumable σ α β) (second : Resumable ρ β γ) : Resumable (σ × ρ) α γ where
  run state xs := (first.run state.1 xs).bind fun read =>
    (second.run state.2 read.1).map fun answered => (answered.1, read.2, answered.2)
  Valid state := first.Valid state.1 ∧ second.Valid state.2
  run_nil := by
    rintro ⟨s, t⟩ ⟨left, right⟩
    simp only [first.run_nil left, Option.bind_some, second.run_nil right, Option.map_some]
  run_append := by
    rintro ⟨s, t⟩ ⟨left, right⟩ xs ys
    simp only [first.run_append left]
    cases read : first.run s xs with
    | none => rfl
    | some answer =>
      obtain ⟨zs, s'⟩ := answer
      simp only [Option.bind_some]
      cases more : first.run s' ys with
      | none =>
        -- The first machine fails on the second piece, whatever the second one does.
        cases second.run t zs with
        | none => rfl
        | some answer => simp only [Option.map_none, Option.bind_none, Option.map_some, Option.bind_some, more]
      | some rest =>
        simp only [Option.map_some, Option.bind_some, second.run_append right]
        cases second.run t zs with
        | none => rfl
        | some answer =>
          simp only [Option.bind_some, Option.map_some, more]
          cases second.run answer.2 rest.1 <;> rfl
  valid_run := by
    rintro ⟨s, t⟩ xs zs ⟨s', t'⟩ ⟨left, right⟩ ran
    obtain ⟨⟨ys, _⟩, read, rest⟩ := Option.bind_eq_some_iff.mp ran
    obtain ⟨_, answered, same⟩ := Option.map_eq_some_iff.mp rest
    cases same
    exact ⟨first.valid_run left read, second.valid_run right answered⟩
  length_run := by
    rintro ⟨s, t⟩ xs zs ⟨s', t'⟩ ⟨left, right⟩ ran
    obtain ⟨⟨ys, _⟩, read, rest⟩ := Option.bind_eq_some_iff.mp ran
    obtain ⟨_, answered, same⟩ := Option.map_eq_some_iff.mp rest
    cases same
    exact (second.length_run right answered).trans (first.length_run left read)

/-- A machine that answers what it reads. -/
def echo (Valid : σ → Prop) : Resumable σ α α where
  run state xs := some (xs, state)
  Valid := Valid
  run_nil _ := rfl
  run_append _ _ _ := rfl
  valid_run valid ran := by
    cases ran
    exact valid
  length_run _ ran := by
    cases ran
    rfl

/-- Another machine before a chain, with its state before those of the chain. -/
def link (first : Resumable σ α α) (rest : Resumable (List σ) α α) : Resumable (List σ) α α where
  run
    | [], _ => none
    | s :: states, xs => ((first.andThen rest).run (s, states) xs).map fun read => (read.1, read.2.1 :: read.2.2)
  Valid
    | [] => False
    | s :: states => (first.andThen rest).Valid (s, states)
  run_nil := by
    rintro (_ | ⟨s, states⟩) valid
    · cases valid
    · simp only [(first.andThen rest).run_nil valid, Option.map_some]
  run_append := by
    rintro (_ | ⟨s, states⟩) valid xs ys
    · cases valid
    · simp only [(first.andThen rest).run_append valid]
      cases (first.andThen rest).run (s, states) xs with
      | none => rfl
      | some answer =>
        simp only [Option.bind_some, Option.map_some]
        cases (first.andThen rest).run answer.2 ys <;> rfl
  valid_run := by
    rintro (_ | ⟨s, states⟩) xs ys next valid ran
    · cases valid
    · obtain ⟨⟨_, s', states'⟩, read, same⟩ := Option.map_eq_some_iff.mp ran
      cases same
      exact (first.andThen rest).valid_run valid read
  length_run := by
    rintro (_ | ⟨s, states⟩) xs ys next valid ran
    · cases valid
    · obtain ⟨⟨_, s', states'⟩, read, same⟩ := Option.map_eq_some_iff.mp ran
      cases same
      exact (first.andThen rest).length_run valid read

/-- Each machine reads what the one before it answers. -/
def chain (machines : List (Resumable σ α α)) : Resumable (List σ) α α := machines.foldr link (echo (· = []))

theorem chain_nil : chain ([] : List (Resumable σ α α)) = echo (· = []) := rfl

theorem chain_cons (first : Resumable σ α α) (machines : List (Resumable σ α α)) :
    chain (first :: machines) = first.link (chain machines) := rfl

theorem chain_valid {machines : List (Resumable σ α α)} {states : List σ} :
    (chain machines).Valid states ↔ List.Forall₂ (fun machine s => machine.Valid s) machines states := by
  induction machines generalizing states with
  | nil => exact List.forall₂_nil_left_iff.symm
  | cons machine machines ih =>
    cases states with
    | nil => exact ⟨False.elim, fun related => by cases related⟩
    | cons s states => exact (and_congr Iff.rfl ih).trans List.forall₂_cons.symm

section Stages

variable {machines : List (Resumable σ α α)} {states : List σ} {xs : List α}

theorem chain_cons_run (first : Resumable σ α α) (s : σ) :
    (chain (first :: machines)).run (s :: states) xs = (first.run s xs).bind fun read =>
      ((chain machines).run states read.1).map fun answered => (answered.1, read.2 :: answered.2) := by
  simp only [chain_cons, link, andThen]
  cases first.run s xs with
  | none => rfl
  | some read =>
    simp only [Option.bind_some]
    cases (chain machines).run states read.1 <;> rfl

/-- The first machines of a chain run as a chain, and then the next one. -/
theorem chain_take_succ {i : Nat} {machine : Resumable σ α α} {s : σ} (next : machines[i]? = some machine)
    (state : states[i]? = some s) : (chain (machines.take (i + 1))).run (states.take (i + 1)) xs =
      ((chain (machines.take i)).run (states.take i) xs).bind fun read =>
        (machine.run s read.1).map fun answered => (answered.1, read.2 ++ [answered.2]) := by
  induction machines generalizing states xs i with
  | nil => cases next
  | cons first machines ih =>
    cases states with
    | nil => cases state
    | cons t states =>
      cases i with
      | zero =>
        cases next
        cases state
        simp only [Nat.zero_add, List.take_succ_cons, List.take_zero, chain_cons_run]
        simp only [chain_nil, echo, Option.map_some, Option.bind_some, List.nil_append]
        cases machine.run s xs <;> rfl
      | succ i =>
        simp only [List.take_succ_cons, chain_cons_run]
        cases first.run t xs with
        | none => rfl
        | some read =>
          simp only [Option.bind_some, ih next state]
          cases (chain (machines.take i)).run (states.take i) read.1 with
          | none => rfl
          | some rest =>
            simp only [Option.bind_some, Option.map_some]
            cases machine.run s rest.1 <;> rfl

/-- If the first machines of a chain fail, so does the chain. -/
theorem chain_take_none {i : Nat} (failed : (chain (machines.take i)).run (states.take i) xs = none) :
    (chain machines).run states xs = none := by
  induction machines generalizing states xs i with
  | nil =>
    rw [List.take_nil] at failed
    cases failed
  | cons first machines ih =>
    cases i with
    | zero => cases failed
    | succ i =>
      cases states with
      | nil => rfl
      | cons t states =>
        rw [List.take_succ_cons, List.take_succ_cons, chain_cons_run] at failed
        rw [chain_cons_run]
        cases read : first.run t xs with
        | none => rfl
        | some answer =>
          rw [read, Option.bind_some, Option.map_eq_none_iff] at failed
          rw [Option.bind_some, ih failed, Option.map_none]

end Stages

/-! ### Reading back -/

section Feedback

variable {τ : Type w} (machine : Resumable σ α β) (pick : β → τ) (item : τ → α)

/-- Read a list, pick from the last answer, and start over with the list and what was
picked. -/
def recompute (start : σ) : Nat → List α → Option (List τ)
  | 0, _ => some []
  | n + 1, xs =>
    (machine.run start xs).bind fun read =>
      (read.1.getLast?.map pick).bind fun picked => (recompute start n (xs ++ [item picked])).map (picked :: ·)

/-- Where a loop stands that reads only what it has not read yet: it has picked what
`recompute` picks, and what it has read and will read next is the list and its picks. -/
structure Resumed (start : σ) (xs : List α) (picked : List τ) (s : σ) (feed : List α) : Prop where
  reads : ∃ read answered, machine.run start read = some (answered, s) ∧ read ++ feed = xs ++ picked.map item
  picks : machine.recompute pick item start picked.length xs = some picked

variable {machine pick item} {start s t : σ} {xs feed : List α} {picked : List τ} {n : Nat}

theorem recompute_succ : machine.recompute pick item start (n + 1) xs =
    (machine.recompute pick item start n xs).bind fun picked =>
      (machine.run start (xs ++ picked.map item)).bind fun read =>
        (read.1.getLast?.map pick).map fun next => picked ++ [next] := by
  induction n generalizing xs with
  | zero =>
    simp only [recompute, Option.bind_some, List.map_nil, List.append_nil, Option.map_some, List.nil_append]
    apply Option.bind_congr
    intro read _
    cases read.1.getLast?.map pick <;> rfl
  | succ n ih =>
    rw [recompute]
    conv_rhs => rw [recompute]
    rw [Option.bind_assoc]
    apply Option.bind_congr
    intro read _
    rw [Option.bind_assoc]
    apply Option.bind_congr
    intro first _
    rw [ih]
    cases machine.recompute pick item start n (xs ++ [item first]) with
    | none => rfl
    | some rest =>
      simp only [Option.bind_some, Option.map_some, List.map_cons, List.append_assoc, List.cons_append,
        List.nil_append]
      cases machine.run start (xs ++ item first :: rest.map item) with
      | none => rfl
      | some read =>
        simp only [Option.bind_some]
        cases read.1.getLast?.map pick <;> rfl

/-- What can be picked in `n` rounds can be picked in fewer. -/
theorem recompute_isSome_of_le (picks : (machine.recompute pick item start n xs).isSome) {m : Nat} (fewer : m ≤ n) :
    (machine.recompute pick item start m xs).isSome := by
  induction fewer with
  | refl => exact picks
  | step _ ih =>
    apply ih
    rw [recompute_succ] at picks
    exact Option.isSome_of_isSome_bind picks

theorem Resumed.init (valid : machine.Valid start) : machine.Resumed pick item start xs [] start xs where
  reads := ⟨[], [], machine.run_nil valid, by rw [List.map_nil, List.append_nil, List.nil_append]⟩
  picks := rfl

theorem Resumed.valid (valid : machine.Valid start) (resumed : machine.Resumed pick item start xs picked s feed) :
    machine.Valid s := by
  obtain ⟨read, answered, ran, _⟩ := resumed.reads
  exact machine.valid_run valid ran

/-- From there the machine answers the end of what it would answer to the whole list. -/
theorem Resumed.run (valid : machine.Valid start) (resumed : machine.Resumed pick item start xs picked s feed) :
    ∃ answered, machine.run start (xs ++ picked.map item) =
      (machine.run s feed).map fun read => (answered ++ read.1, read.2) := by
  obtain ⟨read, answered, ran, same⟩ := resumed.reads
  exact ⟨answered, by rw [← same, machine.run_append valid, ran, Option.bind_some]⟩

/-- One round. -/
theorem Resumed.next (valid : machine.Valid start) (resumed : machine.Resumed pick item start xs picked s feed)
    {ys : List β} {y : β} (ran : machine.run s feed = some (ys, t)) (last : ys.getLast? = some y) :
    machine.Resumed pick item start xs (picked ++ [pick y]) t [item (pick y)] := by
  obtain ⟨answered, whole⟩ := resumed.run valid
  rw [ran, Option.map_some] at whole
  refine ⟨⟨_, _, whole, ?_⟩, ?_⟩
  · rw [List.map_append, List.append_assoc]
    rfl
  · rw [List.length_append, List.length_singleton, recompute_succ, resumed.picks, Option.bind_some, whole,
      Option.bind_some, List.getLast?_append, last]
    rfl

/-- A loop that is stuck would be stuck when it started over. -/
theorem Resumed.stuck (valid : machine.Valid start) (resumed : machine.Resumed pick item start xs picked s feed)
    (failed : machine.run s feed = none) : machine.recompute pick item start (picked.length + 1) xs = none := by
  obtain ⟨_, whole⟩ := resumed.run valid
  rw [recompute_succ, resumed.picks, Option.bind_some, whole, failed]
  rfl

end Feedback

end Resumable
