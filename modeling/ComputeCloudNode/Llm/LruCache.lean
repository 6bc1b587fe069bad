import Mathlib.Data.List.Induction
import ComputeCloudNode.Lib.Lru
import ComputeCloudNode.Llm.KvCache

/-! The two structures behind the key/value cache, a dict and an access list, are
together one least-recently-used map: the dict holds its pairs and the list its
keys, oldest first. Every operation keeps them so and answers as the map does. -/
namespace ComputeCloudNode.LLMShardExecutor.KvState

variable {Kv : Type}

/-- `kv_cache_size`. -/
def kvCacheSize (state : KvState Kv) : Nat := state.cache.keys.length

/-- One call of `_kv_cache_get`, `_kv_cache_put` or `evict_run_id`. -/
def kvStep (maxKvEntries : Int) : Mealy.Machine (KvState Kv) (Lru.Op KvKey Kv String) (Lru.Answer Kv)
  | state, .get (runId, shardIndex) =>
    let (found, next) := state.kvCacheGet runId shardIndex
    (.value found, next)
  | state, .put (runId, shardIndex) kv => (.done, state.kvCachePut maxKvEntries runId shardIndex kv)
  | state, .evict runId =>
    let (count, next) := state.evictRunId runId
    (.dropped count, next)

/-- The dict holds the pairs of the map, the access list its keys. -/
structure Refines (state : KvState Kv) (map : Lru.Map KvKey Kv) : Prop where
  cache : state.cache.entries.Perm map.entries
  order : state.order = map.keys.reverse

variable {state : KvState Kv} {map : Lru.Map KvKey Kv} {key : KvKey} {kv : Kv}

theorem Refines.lookup (refines : Refines state map) (key : KvKey) :
    state.cache.lookup key = map.lookup key :=
  AList.perm_lookup refines.cache

theorem Refines.keys_perm (refines : Refines state map) : state.cache.keys.Perm map.keys :=
  refines.cache.map Sigma.fst

theorem Refines.size (refines : Refines state map) : state.kvCacheSize = map.entries.length :=
  refines.keys_perm.length_eq.trans (List.length_map _)

/-- The access list without a key is that of the keys without it. -/
theorem Refines.order_erase (refines : Refines state map) (key : KvKey) :
    state.order.erase key = (map.erase key).keys.reverse := by
  have distinct : state.order.Nodup := refines.order ▸ List.nodup_reverse.mpr map.keys_nodup
  rw [Lru.Map.erase_keys, distinct.erase_eq_filter, refines.order, List.filter_reverse]
  congr 1
  apply List.filter_congr
  intro other _
  by_cases same : other = key <;> simp [same]

theorem Refines.erase (refines : Refines state map) (key : KvKey) :
    Refines { cache := state.cache.erase key, order := state.order.erase key } (map.erase key) :=
  ⟨AList.perm_erase refines.cache, refines.order_erase key⟩

theorem Refines.get (refines : Refines state map) (runId : String) (shardIndex : Int) :
    (state.kvCacheGet runId shardIndex).1 = (map.get (runId, shardIndex)).1 ∧
      Refines (state.kvCacheGet runId shardIndex).2 (map.get (runId, shardIndex)).2 := by
  refine ⟨?_, ?_, ?_⟩
  · rw [kvCacheGet_value, Lru.Map.get_value, refines.lookup]
  · rw [kvCacheGet_cache]
    exact refines.cache.trans (map.get_entries_perm _).symm
  · cases found : map.lookup (runId, shardIndex) with
    | none =>
      have absent : state.cache.lookup (runId, shardIndex) = none := (refines.lookup _).trans found
      simp only [kvCacheGet, absent, Lru.Map.get, found]
      exact refines.order
    | some kv =>
      have present : state.cache.lookup (runId, shardIndex) = some kv := (refines.lookup _).trans found
      rw [Lru.Map.get_keys found, List.reverse_cons, ← AList.keys_erase]
      simp only [kvCacheGet, present, refines.order_erase]

/-- The loop of a put pops exactly the keys over the cap. -/
theorem evictOldest_keep (cap : Nat) {cache : AList fun _ : KvKey => Kv} (same : cache.entries.Perm map.entries) :
    Refines (evictOldest cap cache map.keys.reverse) (map.keep cap) := by
  obtain ⟨entries, distinct⟩ := map
  induction entries using List.reverseRecOn generalizing cache with
  | nil => exact ⟨by simpa [evictOldest, Lru.Map.keep] using same, by simp [evictOldest, Lru.Map.keep]⟩
  | append_singleton entries oldest ih =>
    have size : cache.keys.length = entries.length + 1 := by
      rw [AList.keys, List.keys, List.length_map, same.length_eq, List.length_append, List.length_singleton]
    have order : (AList.mk (entries ++ [oldest]) distinct).keys.reverse =
        oldest.1 :: (entries.map Sigma.fst).reverse := by
      simp [AList.keys, List.keys]
    rw [order, evictOldest]
    by_cases full : (cap : Int) < cache.keys.length
    · rw [if_pos full, Lru.Map.keep_snoc distinct (by omega)]
      apply ih _
      have erased := AList.perm_erase (a := oldest.1) same
      rwa [Lru.Map.erase_oldest distinct] at erased
    · rw [if_neg full, Lru.Map.keep_of_size_le]
      · exact ⟨same, order.symm⟩
      · rw [List.length_append, List.length_singleton]
        omega

theorem Refines.put (refines : Refines state map) (cap : Nat) (runId : String) (shardIndex : Int) (kv : Kv) :
    Refines (state.kvCachePut cap runId shardIndex kv) (map.put cap (runId, shardIndex) kv) := by
  have inserted := AList.perm_insert (a := (runId, shardIndex)) (b := kv) refines.cache
  have order : (if (runId, shardIndex) ∈ state.cache then state.order.erase (runId, shardIndex)
      else state.order) ++ [(runId, shardIndex)] = (map.insert (runId, shardIndex) kv).keys.reverse := by
    rw [AList.keys_insert, List.reverse_cons, ← AList.keys_erase, ← refines.order_erase]
    by_cases present : (runId, shardIndex) ∈ state.cache
    · rw [if_pos present]
    · have absent : (runId, shardIndex) ∉ state.order := by
        rw [refines.order, List.mem_reverse, ← AList.mem_keys, ← AList.mem_of_perm refines.cache]
        exact present
      rw [if_neg present, List.erase_of_not_mem absent]
  rw [kvCachePut, order]
  exact evictOldest_keep cap inserted

/-- Dropping keys one at a time. -/
theorem Refines.drop (refines : Refines state map) (keys : List KvKey) :
    Refines (keys.foldl (fun (state : KvState Kv) key =>
        { cache := state.cache.erase key, order := state.order.erase key }) state)
      (keys.foldl (fun map key => map.erase key) map) := by
  induction keys generalizing state map with
  | nil => exact refines
  | cons key keys ih => exact ih (refines.erase key)

theorem Refines.evict (refines : Refines state map) (runId : String) :
    (state.evictRunId runId).1 = (map.evict Prod.fst runId).1 ∧
      Refines (state.evictRunId runId).2 (map.evict Prod.fst runId).2 := by
  constructor
  · exact (refines.keys_perm.filter _).length_eq
  · rw [Lru.Map.evict_eq_foldl_erase Prod.fst map runId (state.cache.keys.filter fun key => key.1 = runId)]
    · exact refines.drop _
    · intro key member
      have present : key ∈ state.cache.keys := refines.keys_perm.mem_iff.mpr member
      simp only [List.mem_filter, present, decide_eq_true_eq, true_and]

/-- Every operation answers as on the map, and the two stay the same. -/
theorem kvStep_refines (cap : Nat) (state : KvState Kv) (map : Lru.Map KvKey Kv)
    (op : Lru.Op KvKey Kv String) (refines : Refines state map) :
    (kvStep cap state op).1 = (Lru.step cap Prod.fst map op).1 ∧
      Refines (kvStep cap state op).2 (Lru.step cap Prod.fst map op).2 := by
  cases op with
  | get key =>
    obtain ⟨found, next⟩ := refines.get key.1 key.2
    exact ⟨congrArg Lru.Answer.value found, next⟩
  | put key kv => exact ⟨rfl, refines.put cap key.1 key.2 kv⟩
  | evict runId =>
    obtain ⟨count, next⟩ := refines.evict runId
    exact ⟨congrArg Lru.Answer.dropped count, next⟩

theorem refines_empty : Refines ({} : KvState Kv) (∅ : Lru.Map KvKey Kv) :=
  ⟨List.Perm.refl _, rfl⟩

/-- The cache answers every sequence of operations as the least-recently-used map
of `maxKvEntries` pairs does. After it the access list has no duplicates and
exactly the keys of the dict, whose size is within the cap. -/
theorem kvCache_refines_lru_map (maxKvEntries : Nat) (ops : List (Lru.Op KvKey Kv String)) :
    let (answers, final) := Mealy.run (kvStep maxKvEntries) ({} : KvState Kv) ops
    answers = (Mealy.run (Lru.step maxKvEntries Prod.fst) (∅ : Lru.Map KvKey Kv) ops).1 ∧
      final.order.Nodup ∧ (∀ key, key ∈ final.order ↔ key ∈ final.cache) ∧
      final.kvCacheSize ≤ maxKvEntries := by
  obtain ⟨answers, refines⟩ := Mealy.run_sim (@kvStep_refines Kv maxKvEntries) refines_empty ops
  refine ⟨answers, ?_, ?_, ?_⟩
  · rw [refines.order]
    exact List.nodup_reverse.mpr (AList.keys_nodup _)
  · intro key
    rw [refines.order, List.mem_reverse, ← AList.mem_keys, AList.mem_of_perm refines.cache]
  · rw [refines.size]
    exact Lru.run_size_le maxKvEntries Prod.fst ops

end ComputeCloudNode.LLMShardExecutor.KvState
