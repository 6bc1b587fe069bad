import ComputeCloudNode.Lib.Traces

/-! What a sequence of calls has acquired and not given back. `Owes` says that this is at
most one thing, and which; `Settles` is how calls change it, whatever was called before. -/
namespace Holdings
open Traces

variable {κ ρ : Type*}

/-- What a call acquires, and what it gives back. -/
structure Ledger (κ ρ : Type*) where
  acquires : κ → Option ρ
  releases : κ → Option ρ

namespace Ledger

variable {ledger : Ledger κ ρ} {r : ρ} {call : κ} {calls later : List κ} {owed owed' owed'' : Option ρ}

/-- Acquired by some call, and not released since. -/
def Held (ledger : Ledger κ ρ) (r : ρ) (calls : List κ) : Prop :=
  Since (fun call => ledger.acquires call = some r) (fun call => ledger.releases call ≠ some r) calls

/-- Exactly this is held. -/
def Owes (ledger : Ledger κ ρ) (calls : List κ) (owed : Option ρ) : Prop := ∀ r, ledger.Held r calls ↔ owed = some r

/-- Whoever owes the one before these calls owes the other after them. -/
def Settles (ledger : Ledger κ ρ) (owed : Option ρ) (calls : List κ) (owed' : Option ρ) : Prop :=
  ∀ before, ledger.Owes before owed → ledger.Owes (before ++ calls) owed'

/-- A call that has nothing to do with any holding. -/
def Idle (ledger : Ledger κ ρ) (call : κ) : Prop := ledger.acquires call = none ∧ ledger.releases call = none

theorem held_snoc : ledger.Held r (calls ++ [call]) ↔
    ledger.acquires call = some r ∨ ledger.releases call ≠ some r ∧ ledger.Held r calls :=
  since_snoc

theorem owes_nil : ledger.Owes [] none := by
  intro r
  simp [Held]

theorem Owes.nothing (owes : ledger.Owes calls none) : ¬ ledger.Held r calls := by
  rw [owes r]
  exact nofun

/-- What was held stays so until a call gives it back. -/
theorem Held.append (held : ledger.Held r calls) (kept : ∀ call ∈ later, ledger.releases call ≠ some r) :
    ledger.Held r (calls ++ later) := by
  obtain ⟨early, call, late, rfl, acquired, since⟩ := held
  refine ⟨early, call, late ++ later, by simp, acquired, fun other member => ?_⟩
  rcases List.mem_append.mp member with old | new
  · exact since other old
  · exact kept other new

theorem Held.prepend (held : ledger.Held r later) (calls : List κ) : ledger.Held r (calls ++ later) := by
  obtain ⟨early, call, late, rfl, acquired, since⟩ := held
  exact ⟨calls ++ early, call, late, by simp, acquired, since⟩

theorem Settles.refl : ledger.Settles owed [] owed := by
  intro before owes
  rw [List.append_nil]
  exact owes

theorem Settles.trans (first : ledger.Settles owed calls owed') (second : ledger.Settles owed' later owed'') :
    ledger.Settles owed (calls ++ later) owed'' := by
  intro before owes
  rw [← List.append_assoc]
  exact second _ (first before owes)

theorem Settles.acquire (acquired : ledger.acquires call = some r) : ledger.Settles none [call] (some r) := by
  intro before owes other
  rw [held_snoc, acquired]
  constructor
  · rintro (same | ⟨_, held⟩)
    · exact same
    · exact absurd held owes.nothing
  · exact .inl

theorem Settles.release (idle : ledger.acquires call = none) (released : ledger.releases call = some r) :
    ledger.Settles (some r) [call] none := by
  intro before owes other
  rw [held_snoc, idle, released, owes other]
  constructor
  · rintro (none_ | ⟨kept, same⟩)
    · cases none_
    · exact absurd same kept
  · exact nofun

theorem Settles.idle (idle : ledger.Idle call) : ledger.Settles owed [call] owed := by
  intro before owes other
  rw [held_snoc, idle.1, idle.2, owes other]
  simp

theorem Settles.all_idle (idle : ∀ call ∈ calls, ledger.Idle call) : ledger.Settles owed calls owed := by
  induction calls with
  | nil => exact .refl
  | cons call calls ih =>
    obtain ⟨first, rest⟩ := List.forall_mem_cons.mp idle
    exact (Settles.idle first).trans (ih rest)

end Ledger

end Holdings
