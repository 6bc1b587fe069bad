import Mathlib.Data.List.AList

/-! The key/value cache of `LLMShardExecutor`: one entry for each run and shard
index, and the order in which the entries were last used. Everything but a put
only forgets entries, and a put stores the new entry and forgets others, so what
is true of every stored entry stays true. -/
namespace ComputeCloudNode.LLMShardExecutor

/-- `(run_id, shard_index)`. -/
abbrev KvKey := String × Int

/-- `_kv_cache` and `_kv_order`. -/
structure KvState (Kv : Type) where
  cache : AList fun _ : KvKey => Kv := ∅
  order : List KvKey := []

namespace KvState

variable {Kv : Type}

/-- `_kv_cache_get`. -/
def kvCacheGet (state : KvState Kv) (runId : String) (shardIndex : Int) : Option Kv × KvState Kv :=
  let key := (runId, shardIndex)
  match state.cache.lookup key with
  | none => (none, state)
  | some kv => (some kv, { state with order := state.order.erase key ++ [key] })

/-- The loop of `_kv_cache_put`: drop the oldest entries over the cap. -/
def evictOldest (maxKvEntries : Int) (cache : AList fun _ : KvKey => Kv) : List KvKey → KvState Kv
  | [] => { cache := cache, order := [] }
  | old :: order =>
    if maxKvEntries < cache.keys.length then evictOldest maxKvEntries (cache.erase old) order
    else { cache := cache, order := old :: order }

/-- `_kv_cache_put`. -/
def kvCachePut (maxKvEntries : Int) (state : KvState Kv) (runId : String) (shardIndex : Int) (kv : Kv) :
    KvState Kv :=
  let key := (runId, shardIndex)
  let order := if key ∈ state.cache then state.order.erase key else state.order
  evictOldest maxKvEntries (state.cache.insert key kv) (order ++ [key])

/-- `evict_run_id`: the number of entries dropped and the state without them. -/
def evictRunId (state : KvState Kv) (runId : String) : Nat × KvState Kv :=
  let keys := state.cache.keys.filter fun key => key.1 = runId
  let dropped := keys.foldl (fun (state : KvState Kv) key =>
    { cache := state.cache.erase key, order := state.order.erase key }) state
  (keys.length, dropped)

/-! ### What is stored -/

/-- Every stored entry satisfies `P`. -/
def Stored (P : KvKey → Kv → Prop) (cache : AList fun _ : KvKey => Kv) : Prop :=
  ∀ key kv, cache.lookup key = some kv → P key kv

variable {P Q : KvKey → Kv → Prop} {cache : AList fun _ : KvKey => Kv} {state : KvState Kv}

theorem stored_empty : Stored P (∅ : AList fun _ : KvKey => Kv) := by
  intro key kv found
  cases found

theorem Stored.mono (stored : Stored P cache) (weaker : ∀ key kv, P key kv → Q key kv) : Stored Q cache :=
  fun key kv found => weaker key kv (stored key kv found)

theorem Stored.erase (stored : Stored P cache) (old : KvKey) : Stored P (cache.erase old) := by
  intro key kv found
  by_cases same : key = old
  · subst same
    rw [AList.lookup_erase] at found
    cases found
  · rw [AList.lookup_erase_ne same] at found
    exact stored key kv found

/-- The entry of `key` may be replaced by one that satisfies `P`. -/
theorem Stored.insert {key : KvKey} {kv : Kv}
    (stored : Stored (fun other entry => other ≠ key → P other entry) cache) (new : P key kv) :
    Stored P (cache.insert key kv) := by
  intro other entry found
  by_cases same : other = key
  · subst same
    rw [AList.lookup_insert] at found
    cases found
    exact new
  · rw [AList.lookup_insert_ne same] at found
    exact stored other entry found same

theorem kvCacheGet_value (state : KvState Kv) (runId : String) (shardIndex : Int) :
    (state.kvCacheGet runId shardIndex).1 = state.cache.lookup (runId, shardIndex) := by
  cases found : state.cache.lookup (runId, shardIndex) <;> simp [kvCacheGet, found]

/-- A get changes the order only. -/
theorem kvCacheGet_cache (state : KvState Kv) (runId : String) (shardIndex : Int) :
    (state.kvCacheGet runId shardIndex).2.cache = state.cache := by
  cases found : state.cache.lookup (runId, shardIndex) <;> simp [kvCacheGet, found]

theorem Stored.evictOldest (stored : Stored P cache) (maxKvEntries : Int) (order : List KvKey) :
    Stored P (evictOldest maxKvEntries cache order).cache := by
  induction order generalizing cache with
  | nil => exact stored
  | cons old order ih =>
    unfold KvState.evictOldest
    split
    · exact ih (stored.erase old)
    · exact stored

theorem Stored.kvCachePut {runId : String} {shardIndex : Int} {kv : Kv}
    (stored : Stored (fun other entry => other ≠ (runId, shardIndex) → P other entry) state.cache)
    (new : P (runId, shardIndex) kv) (maxKvEntries : Int) :
    Stored P (state.kvCachePut maxKvEntries runId shardIndex kv).cache :=
  (stored.insert new).evictOldest maxKvEntries _

theorem Stored.evictRunId (stored : Stored P state.cache) (runId : String) :
    Stored P (state.evictRunId runId).2.cache := by
  unfold KvState.evictRunId
  generalize state.cache.keys.filter _ = keys
  induction keys generalizing state with
  | nil => exact stored
  | cons key keys ih => exact ih (stored.erase key)

end KvState

end ComputeCloudNode.LLMShardExecutor
