import Mathlib.Data.List.Basic

/-! The listeners of one host. A listener is opened on a port only while no open
listener has that port, keeps the port until it is closed, and never opens
again. A `Host` carries these facts, so the listener found on a port is the one
that is open there. -/
namespace Ports

variable {α : Type*}

structure Listener (α : Type*) where
  id : String
  port : Nat
  owner : α
  running : Bool := true

def Listener.close (id : String) (listener : Listener α) : Listener α :=
  if listener.id = id then { listener with running := false } else listener

namespace Listener

variable {id : String} {listener : Listener α}

@[simp] theorem close_id : (listener.close id).id = listener.id := by
  unfold close
  split <;> rfl

/-- A listener that is open after the close was not the one closed. -/
theorem close_of_running (running : (listener.close id).running) : listener.close id = listener := by
  unfold close at running ⊢
  split at running
  next same => cases running
  next other => rw [if_neg other]

end Listener

/-- Every listener a host ever had. -/
structure Host (α : Type*) where
  listeners : List (Listener α) := []
  distinct : ∀ left ∈ listeners, ∀ right ∈ listeners, left.id = right.id → left = right
  exclusive : ∀ left ∈ listeners, ∀ right ∈ listeners, left.running → right.running →
    left.port = right.port → left = right

namespace Host

def empty : Host α := ⟨[], by simp, by simp⟩

/-- No open listener has this port, and no listener ever had this id. -/
def grants (host : Host α) (id : String) (port : Nat) : Bool :=
  host.listeners.all fun listener => listener.id ≠ id && !(listener.running && listener.port = port)

variable {host : Host α} {id : String} {port : Nat} {owner : α} {listener : Listener α}

theorem grants_iff : host.grants id port ↔
    ∀ listener ∈ host.listeners, listener.id ≠ id ∧ (listener.running → listener.port ≠ port) := by
  simp only [grants, List.all_eq_true, Bool.and_eq_true, decide_eq_true_eq, Bool.not_eq_true',
    Bool.and_eq_false_imp, decide_eq_false_iff_not, ne_eq]

def bind (host : Host α) (id : String) (port : Nat) (owner : α) (granted : host.grants id port) : Host α where
  listeners := host.listeners ++ [{ id := id, port := port, owner := owner }]
  distinct := by
    intro left leftMember right rightMember same
    simp only [List.mem_append, List.mem_singleton] at leftMember rightMember
    rcases leftMember with old | rfl <;> rcases rightMember with old' | rfl
    · exact host.distinct left old right old' same
    · exact absurd same (grants_iff.mp granted left old).1
    · exact absurd same.symm (grants_iff.mp granted right old').1
    · rfl
  exclusive := by
    intro left leftMember right rightMember leftRuns rightRuns same
    simp only [List.mem_append, List.mem_singleton] at leftMember rightMember
    rcases leftMember with old | rfl <;> rcases rightMember with old' | rfl
    · exact host.exclusive left old right old' leftRuns rightRuns same
    · exact absurd same ((grants_iff.mp granted left old).2 leftRuns)
    · exact absurd same.symm ((grants_iff.mp granted right old').2 rightRuns)
    · rfl

def close (host : Host α) (id : String) : Host α where
  listeners := host.listeners.map (Listener.close id)
  distinct := by
    intro left leftMember right rightMember same
    obtain ⟨before, member, rfl⟩ := List.mem_map.mp leftMember
    obtain ⟨before', member', rfl⟩ := List.mem_map.mp rightMember
    simp only [Listener.close_id] at same
    rw [host.distinct before member before' member' same]
  exclusive := by
    intro left leftMember right rightMember leftRuns rightRuns same
    obtain ⟨before, member, rfl⟩ := List.mem_map.mp leftMember
    obtain ⟨before', member', rfl⟩ := List.mem_map.mp rightMember
    have left := Listener.close_of_running leftRuns
    have right := Listener.close_of_running rightRuns
    rw [left] at leftRuns same ⊢
    rw [right] at rightRuns same ⊢
    exact host.exclusive before member before' member' leftRuns rightRuns same

/-- The listener that accepts a connection to the port. -/
def openOn (host : Host α) (port : Nat) : Option (Listener α) :=
  host.listeners.find? fun listener => listener.running && listener.port = port

/-- While a listener is open, connections to its port reach it. -/
theorem openOn_of_running (member : listener ∈ host.listeners) (running : listener.running) :
    host.openOn listener.port = some listener := by
  cases found : host.openOn listener.port with
  | none =>
    have missed := List.find?_eq_none.mp found listener member
    simp [running] at missed
  | some other =>
    have shown := List.find?_some found
    simp only [Bool.and_eq_true, decide_eq_true_eq] at shown
    rw [host.exclusive other (List.mem_of_find?_eq_some found) listener member shown.1 running shown.2]

theorem openOn_some (found : host.openOn port = some listener) :
    listener ∈ host.listeners ∧ listener.running ∧ listener.port = port := by
  have shown := List.find?_some found
  simp only [Bool.and_eq_true, decide_eq_true_eq] at shown
  exact ⟨List.mem_of_find?_eq_some found, shown⟩

theorem openOn_bind (granted : host.grants id port) {other : Nat} (apart : port ≠ other) :
    (host.bind id port owner granted).openOn other = host.openOn other := by
  simp [openOn, bind, List.find?_append, apart]

/-- Who is found on a port after a close was found there before. -/
theorem openOn_close (found : (host.close id).openOn port = some listener) : host.openOn port = some listener := by
  obtain ⟨member, running, rfl⟩ := openOn_some found
  obtain ⟨before, present, rfl⟩ := List.mem_map.mp member
  have kept := Listener.close_of_running running
  rw [kept] at running ⊢
  exact openOn_of_running present running

end Host
end Ports
