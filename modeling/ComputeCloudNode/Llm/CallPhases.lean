import ComputeCloudNode.Llm.CachedPasses

/-! The two halves of a call of `execute`. Between the lookup of the cached keys and
values and the store of the new ones the lock is free, so other calls may run there. -/
namespace ComputeCloudNode.LLMShardExecutor
open ModelConfig ModelShard Weights

variable {V Tensor Row Cache Logits : Type}

/-- What a call knows once it has looked up the cached keys and values. -/
structure Prepared (V Tensor Cache : Type) where
  built : BuiltShard V Tensor
  passIndex : Int
  pastKv : Option (List Cache)

section Phases

variable (conv : PayloadConversions V Row) (payload : ConfigDict V)
  (sem : CachedSemantics V Tensor Row Cache Logits) (world : World V Tensor)

/-- `execute` to the end of `_kv_cache_get`. -/
def beginExecute (taskId : String) (state : KvState (List Cache)) :
    KvState (List Cache) × Except String (Prepared V Tensor Cache) :=
  if isLlmShardTask conv payload then
    let state := evictSignal conv payload state
    match buildShard conv payload sem world with
    | .error text => (state, .error text)
    | .ok built =>
      match getInt conv.toConversions payload ["pass_index"] 0 with
      | .error text => (state, .error text)
      | .ok passIndex =>
        let (pastKv, state) := pastOf conv state (cachedRun conv payload) built.shardIndex
        (state, .ok { built, passIndex, pastKv })
  else (state, .error s!"LLMShardExecutor: payload is not an LLM shard task: {taskId}")

/-- The rest of `execute`. -/
def finishExecute (maxKvEntries : Int) (prepared : Except String (Prepared V Tensor Cache))
    (state : KvState (List Cache)) : KvState (List Cache) × Outcome V Tensor Row Cache Logits :=
  match prepared with
  | .error text => (state, .raised text)
  | .ok { built, passIndex, pastKv } =>
    match callForward conv payload sem world built (getBool conv payload "use_cache") passIndex pastKv with
    | .error text => (state, .raised text)
    | .ok call =>
      (store conv maxKvEntries state (cachedRun conv payload) built.shardIndex call.newKvs,
        { forward := some call, result := packOutput conv payload sem world built call.output })

/-- Undisturbed, the halves are the call. -/
theorem execute_eq_phases (maxKvEntries : Int) (taskId : String) (state : KvState (List Cache)) :
    execute conv payload sem world maxKvEntries taskId state =
      finishExecute conv payload sem world maxKvEntries (beginExecute conv payload sem world taskId state).2
        (beginExecute conv payload sem world taskId state).1 := by
  unfold execute beginExecute runShard prepareAndRun
  cases isLlmShardTask conv payload with
  | false => rfl
  | true =>
    simp only [if_true]
    cases buildShard conv payload sem world with
    | error text => rfl
    | ok built =>
      simp only []
      cases getInt conv.toConversions payload ["pass_index"] 0 with
      | error text => rfl
      | ok passIndex => rfl

end Phases

/-! ### What the other keys see -/

namespace KvState

variable {Kv : Type} {state : KvState Kv} {maxKvEntries : Int} {runId : String} {shardIndex : Int} {kv : Kv}

theorem evictOldest_fits {cache : AList fun _ : KvKey => Kv} (fits : (cache.keys.length : Int) ≤ maxKvEntries)
    (order : List KvKey) : (evictOldest maxKvEntries cache order).cache = cache := by
  cases order with
  | nil => rfl
  | cons old order => rw [evictOldest, if_neg (Int.not_lt.mpr fits)]

/-- A put that fits drops nothing. -/
theorem kvCachePut_fits (fits : ((state.cache.insert (runId, shardIndex) kv).keys.length : Int) ≤ maxKvEntries) :
    (state.kvCachePut maxKvEntries runId shardIndex kv).cache = state.cache.insert (runId, shardIndex) kv :=
  evictOldest_fits fits _

theorem lookup_eraseAll (keys : List KvKey) (state : KvState Kv) (key : KvKey) :
    (keys.foldl (fun (state : KvState Kv) key =>
      { cache := state.cache.erase key, order := state.order.erase key }) state).cache.lookup key =
        if key ∈ keys then none else state.cache.lookup key := by
  induction keys generalizing state with
  | nil => rfl
  | cons old keys ih =>
    rw [List.foldl_cons, ih]
    by_cases later : key ∈ keys
    · rw [if_pos later, if_pos (List.mem_cons_of_mem _ later)]
    · rw [if_neg later]
      by_cases here : key = old
      · rw [here, AList.lookup_erase, if_pos List.mem_cons_self]
      · rw [AList.lookup_erase_ne here, if_neg fun member => (List.mem_cons.mp member).elim here later]

/-- The eviction of a run drops its entries and no others. -/
theorem evictRunId_lookup (state : KvState Kv) (runId : String) (key : KvKey) :
    (state.evictRunId runId).2.cache.lookup key = if key.1 = runId then none else state.cache.lookup key := by
  rw [evictRunId, lookup_eraseAll]
  by_cases own : key.1 = runId
  · rw [if_pos own]
    by_cases stored : key ∈ state.cache
    · rw [if_pos (List.mem_filter.mpr ⟨AList.mem_keys.mp stored, decide_eq_true own⟩)]
    · rw [AList.lookup_eq_none.mpr stored, ite_self]
  · rw [if_neg own, if_neg]
    intro member
    exact own (of_decide_eq_true (List.mem_filter.mp member).2)

end KvState

end ComputeCloudNode.LLMShardExecutor
