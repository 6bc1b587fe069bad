import Mathlib.Data.List.AList
import Mathlib.Order.Basic
import ComputeCloudNode.Lib.Mealy

/-! The ideal least-recently-used map: one list of pairs with distinct keys, the
most recently used in front. An `AList` is such a list, and inserting a pair
moves its key to the front. Keys fall into groups, and a whole group can be
dropped at once. -/
namespace Lru

variable {α β γ : Type} [DecidableEq α] [DecidableEq γ]

abbrev Map (α β : Type) := AList fun _ : α => β

namespace Map

/-- The value of a key, which becomes the most recent one. -/
def get (map : Map α β) (key : α) : Option β × Map α β :=
  match map.lookup key with
  | none => (none, map)
  | some value => (some value, map.insert key value)

/-- Keep the `cap` most recent pairs. -/
def keep (cap : Nat) (map : Map α β) : Map α β :=
  ⟨map.entries.take cap, map.nodupKeys.sublist (List.take_sublist cap map.entries)⟩

/-- Insert or replace at the most recent end, then drop what is over the cap. -/
def put (cap : Nat) (map : Map α β) (key : α) (value : β) : Map α β :=
  keep cap (map.insert key value)

/-- Drop the keys of a group and count them. -/
def evict (group : α → γ) (map : Map α β) (g : γ) : Nat × Map α β :=
  ((map.keys.filter fun key => group key = g).length,
    ⟨map.entries.filter fun pair => group pair.1 ≠ g, map.nodupKeys.sublist List.filter_sublist⟩)

end Map

inductive Op (α β γ : Type) where
  | get (key : α)
  | put (key : α) (value : β)
  | evict (g : γ)

inductive Answer (β : Type) where
  | value (found : Option β)
  | done
  | dropped (count : Nat)
  deriving DecidableEq

/-- One operation on the map. -/
def step (cap : Nat) (group : α → γ) : Mealy.Machine (Map α β) (Op α β γ) (Answer β)
  | map, .get key => (.value (map.get key).1, (map.get key).2)
  | map, .put key value => (.done, map.put cap key value)
  | map, .evict g => (.dropped (map.evict group g).1, (map.evict group g).2)

namespace Map

variable {cap : Nat} {map : Map α β} {key : α} {value : β}

theorem get_value (map : Map α β) (key : α) : (map.get key).1 = map.lookup key := by
  cases found : map.lookup key <;> simp only [get, found]

/-- A get only moves the pair of the key. -/
theorem get_entries_perm (map : Map α β) (key : α) : (map.get key).2.entries.Perm map.entries := by
  cases found : map.lookup key with
  | none => simp only [get, found, List.Perm.refl]
  | some value =>
    simp only [get, found, AList.entries_insert]
    have member : (⟨key, value⟩ : Σ _ : α, β) ∈ map.entries := AList.mem_lookup_iff.mp found
    obtain ⟨old, before, after, absent, split, erased⟩ :=
      List.exists_of_kerase (List.mem_keys_of_mem member)
    have other : (⟨key, old⟩ : Σ _ : α, β) ∈ map.entries := by
      rw [split]
      exact List.mem_append_right before List.mem_cons_self
    cases map.nodupKeys.eq_of_mk_mem member other
    rw [erased, split]
    exact List.perm_middle.symm

theorem get_keys (present : map.lookup key = some value) :
    (map.get key).2.keys = key :: map.keys.erase key := by
  simp only [get, present, AList.keys_insert]

theorem get_size (map : Map α β) (key : α) : (map.get key).2.entries.length = map.entries.length :=
  (map.get_entries_perm key).length_eq

theorem put_size_le (cap : Nat) (map : Map α β) (key : α) (value : β) :
    (map.put cap key value).entries.length ≤ cap :=
  List.length_take_le cap _

omit [DecidableEq α] in
theorem evict_size_le (group : α → γ) (map : Map α β) (g : γ) :
    (map.evict group g).2.entries.length ≤ map.entries.length :=
  List.length_filter_le _ map.entries

theorem erase_entries (map : Map α β) (key : α) :
    (map.erase key).entries = map.entries.filter fun pair => pair.1 ≠ key := by
  obtain ⟨entries, distinct⟩ := map
  change List.kerase key entries = _
  induction entries with
  | nil => rfl
  | cons pair entries ih =>
    obtain ⟨fresh, distinct⟩ := List.nodupKeys_cons.mp distinct
    by_cases same : key = pair.1
    · subst same
      have others : ∀ other ∈ entries, other.1 ≠ pair.1 := by
        intro other member clash
        exact fresh (clash ▸ List.mem_keys_of_mem member)
      rw [List.kerase_cons_eq rfl, List.filter_cons_of_neg (by simp)]
      exact (List.filter_eq_self.mpr fun other member => by simpa using others other member).symm
    · rw [List.kerase_cons_ne same, List.filter_cons_of_pos (by simpa using Ne.symm same), ih distinct]

theorem erase_keys (map : Map α β) (key : α) :
    (map.erase key).keys = map.keys.filter fun other => other ≠ key := by
  rw [AList.keys, erase_entries]
  exact (List.filter_map (p := fun other => other ≠ key)).symm

/-- Keys may be dropped one at a time. -/
theorem foldl_erase_entries (keys : List α) (map : Map α β) :
    (keys.foldl (fun map key => map.erase key) map).entries =
      map.entries.filter fun pair => pair.1 ∉ keys := by
  induction keys generalizing map with
  | nil => simp only [List.foldl_nil, List.not_mem_nil, not_false_eq_true, decide_true, List.filter_true]
  | cons key keys ih =>
    rw [List.foldl_cons, ih, erase_entries, List.filter_filter]
    apply List.filter_congr
    intro pair _
    simp only [List.mem_cons, not_or, Bool.decide_and]
    exact Bool.and_comm _ _

/-- So is a group, when the keys are those of the group. -/
theorem evict_eq_foldl_erase (group : α → γ) (map : Map α β) (g : γ) (keys : List α)
    (those : ∀ key ∈ map.keys, key ∈ keys ↔ group key = g) :
    (map.evict group g).2 = keys.foldl (fun map key => map.erase key) map := by
  apply AList.ext
  rw [foldl_erase_entries]
  apply List.filter_congr
  intro pair member
  simp only [those pair.1 (List.mem_keys_of_mem member), ne_eq]

section Oldest

variable {entries : List (Σ _ : α, β)} {oldest : Σ _ : α, β} (distinct : (entries ++ [oldest]).NodupKeys)

omit [DecidableEq α] in
/-- The oldest pair of a map over its cap goes first. -/
theorem keep_snoc {cap : Nat} (full : cap ≤ entries.length) : keep cap ⟨entries ++ [oldest], distinct⟩ =
    keep cap ⟨entries, distinct.sublist (List.sublist_append_left entries [oldest])⟩ :=
  AList.ext (List.take_append_of_le_length full)

omit [DecidableEq α] in
theorem keep_of_size_le {cap : Nat} (within : map.entries.length ≤ cap) : keep cap map = map :=
  AList.ext (List.take_of_length_le within)

theorem erase_oldest : (AList.erase oldest.1 ⟨entries ++ [oldest], distinct⟩).entries = entries := by
  have fresh : oldest.1 ∉ entries.keys := by
    have first := List.nodupKeys_middle.mp distinct
    rw [List.append_nil] at first
    exact List.notMem_keys_of_nodupKeys_cons first
  change List.kerase oldest.1 (entries ++ [oldest]) = entries
  rw [List.kerase_append_right fresh, List.kerase_cons_eq rfl, List.append_nil]

end Oldest

end Map

/-- No operation takes the map over its cap. -/
theorem step_size_le {cap : Nat} {group : α → γ} (map : Map α β) (op : Op α β γ)
    (within : map.entries.length ≤ cap) : (step cap group map op).2.entries.length ≤ cap := by
  cases op with
  | get key => exact (map.get_size key).trans_le within
  | put key value => exact map.put_size_le cap key value
  | evict g => exact (map.evict_size_le group g).trans within

theorem run_size_le (cap : Nat) (group : α → γ) (ops : List (Op α β γ)) :
    (Mealy.run (step cap group) (∅ : Map α β) ops).2.entries.length ≤ cap :=
  Mealy.run_kept (I := fun map => map.entries.length ≤ cap)
    (fun map op => step_size_le map op) (Nat.zero_le cap) ops

end Lru
