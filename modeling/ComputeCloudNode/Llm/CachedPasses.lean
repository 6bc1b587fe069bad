import ComputeCloudNode.Llm.Executor
import ComputeCloudNode.Llm.IncrementalForward

/-! What one call of `execute` does with the key/value cache: a cached pass starts
from the entry of its run and shard and replaces it with what `module.forward`
returned. Every other call, and every call that raises before that, stores
nothing. -/
namespace ComputeCloudNode.LLMShardExecutor
open ModelConfig ModelShard Weights KvState

variable {V Tensor Row Cache Logits : Type} {conv : PayloadConversions V Row} {payload : ConfigDict V}
  {sem : CachedSemantics V Tensor Row Cache Logits} {world : World V Tensor} {built : BuiltShard V Tensor}
  {state : KvState (List Cache)} {call : ForwardCall V Tensor Row Cache Logits} {run : V} {shardIndex : Int}

/-- The cached length that `_prepare_and_run` reads off. -/
def pastLength (sem : CachedSemantics V Tensor Row Cache Logits) (past : Option (List Cache)) : Nat :=
  match past with
  | some (first :: _) => sem.cacheLength first
  | _ => 0

theorem inferOffset_zero (past : Option (List Cache)) : inferOffset sem 0 past = pastLength sem past := by
  unfold inferOffset pastLength
  split <;> simp

/-- A forward call appends its input to the first layer's cache. -/
theorem forward_grows {loadedModule : LoadedModule V Tensor} {input output : List (Item Row Logits)}
    {past : Option (List Cache)} {positionOffset : Int} {first : Cache} {rest : List Cache}
    (ran : (loadedModule.shard sem.toSemantics).forward input past positionOffset (some true) =
      .ok (output, some (first :: rest))) :
    sem.cacheLength first = pastLength sem past + input.length := by
  obtain ⟨rows, kvs, embedded, same, ys, layered⟩ := forward_cached ran
  cases same
  unfold LoadedModule.shard at layered
  cases indices : List.range loadedModule.spec.layerCount with
  | nil =>
    rw [indices] at layered
    cases layered
  | cons index indices' =>
    simp only [indices, List.map_cons, TorchShardModule.runLayers, Fallible.bind_eq_ok_iff, Fallible.pure_eq_ok_iff,
      Prod.exists, Prod.mk.injEq, List.cons.injEq] at layered
    obtain ⟨handed, given, _, _, passed, _, _, _, _, rfl, _⟩ := layered
    have grown := sem.cache_grows (ropePositions_length rows.length positionOffset) passed
    rw [grown, Fallible.mapM_length embedded]
    apply congrArg (· + input.length)
    cases past with
    | none => cases given; rfl
    | some olds =>
      cases olds with
      | nil => cases given; rfl
      | cons old olds => cases given; rfl

/-- The run and the shard a payload's cached pass belongs to. -/
def passOf (conv : PayloadConversions V Row) (payload : ConfigDict V) : Option (V × Int) := do
  let run ← cachedRun conv payload
  let shardIndex ← (getInt conv.toConversions payload ["shard_index"] 0).toOption
  return (run, shardIndex)

/-- A cached pass ran: it started from the entry of its run and shard, and stored
what `module.forward` returned. -/
structure PassRan (conv : PayloadConversions V Row) (sem : CachedSemantics V Tensor Row Cache Logits)
    (payload : ConfigDict V) (maxKvEntries : Int) (run : V) (shardIndex : Int) (state after : KvState (List Cache))
    (call : ForwardCall V Tensor Row Cache Logits) (kvs : List Cache) : Prop where
  past : call.pastKeyValues = (evictSignal conv payload state).cache.lookup (conv.str run, shardIndex)
  offset : ∃ given, getInt conv.toConversions payload ["position_offset"] 0 = .ok given ∧
    call.positionOffset = inferOffset sem given call.pastKeyValues
  ran : (call.loadedModule.shard sem.toSemantics).forward call.input call.pastKeyValues call.positionOffset
    (some true) = .ok (call.output, some kvs)
  stored : ∃ touched : KvState (List Cache), touched.cache = (evictSignal conv payload state).cache ∧
    after = touched.kvCachePut maxKvEntries (conv.str run) shardIndex kvs

/-- Nothing is stored; entries may be forgotten. -/
def Keeps (before after : KvState (List Cache)) : Prop :=
  ∀ P : KvKey → List Cache → Prop, Stored P before.cache → Stored P after.cache

theorem Keeps.of_cache {before after : KvState (List Cache)} (same : after.cache = before.cache) :
    Keeps before after := by
  intro P stored
  rw [same]
  exact stored

theorem evictSignal_keeps (state : KvState (List Cache)) : Keeps state (evictSignal conv payload state) := by
  intro P stored
  unfold evictSignal
  split
  · split
    · exact stored.evictRunId _
    · exact stored
  · exact stored

theorem use_cache_of_cachedRun (cached : cachedRun conv payload = some run) : getBool conv payload "use_cache" := by
  unfold cachedRun at cached
  split at cached
  next use => exact use
  next => cases cached

theorem passOf_cachedRun (identified : passOf conv payload = some (run, shardIndex)) :
    cachedRun conv payload = some run ∧ getBool conv payload "use_cache" ∧
      getInt conv.toConversions payload ["shard_index"] 0 = .ok shardIndex := by
  simp only [passOf, bind, Option.bind_eq_some_iff, pure, Option.some.injEq, Prod.mk.injEq] at identified
  obtain ⟨_, cached, index, read, rfl, rfl⟩ := identified
  refine ⟨cached, use_cache_of_cachedRun cached, ?_⟩
  cases given : getInt conv.toConversions payload ["shard_index"] 0 with
  | error text => rw [given] at read; cases read
  | ok n => rw [given] at read; cases read; rfl

variable {maxKvEntries : Int} {taskId : String}

/-- A call either raises before `module.forward` returns, and at most carries out its
eviction signal, or it is the run of a shard. -/
theorem execute_cases (conv : PayloadConversions V Row) (payload : ConfigDict V)
    (sem : CachedSemantics V Tensor Row Cache Logits) (world : World V Tensor) (maxKvEntries : Int) (taskId : String)
    (state : KvState (List Cache)) :
    (∃ text, (execute conv payload sem world maxKvEntries taskId state).2 = .raised text ∧
      ((execute conv payload sem world maxKvEntries taskId state).1 = state ∨
        (execute conv payload sem world maxKvEntries taskId state).1.cache = (evictSignal conv payload state).cache)) ∨
    ∃ built passIndex call, buildShard conv payload sem world = .ok built ∧
      getInt conv.toConversions payload ["pass_index"] 0 = .ok passIndex ∧
      callForward conv payload sem world built (getBool conv payload "use_cache") passIndex
        (pastOf conv (evictSignal conv payload state) (cachedRun conv payload) built.shardIndex).1 = .ok call ∧
      execute conv payload sem world maxKvEntries taskId state =
        (store conv maxKvEntries
          (pastOf conv (evictSignal conv payload state) (cachedRun conv payload) built.shardIndex).2
          (cachedRun conv payload) built.shardIndex call.newKvs,
          { forward := some call, result := packOutput conv payload sem world built call.output }) := by
  unfold execute
  split
  next task =>
    unfold runShard
    cases ready : buildShard conv payload sem world with
    | error text => exact .inl ⟨text, rfl, .inr rfl⟩
    | ok built =>
      obtain ⟨text, raised, kept⟩ | ⟨passIndex, call, read, called, ran⟩ :=
        prepareAndRun_cases conv payload sem world maxKvEntries built (evictSignal conv payload state)
      · exact .inl ⟨text, raised, .inr kept⟩
      · exact .inr ⟨built, passIndex, call, rfl, read, called, ran⟩
  next => exact .inl ⟨_, rfl, .inl rfl⟩

theorem Keeps.of_evictSignal {state after : KvState (List Cache)}
    (same : after = state ∨ after.cache = (evictSignal conv payload state).cache) : Keeps state after := by
  intro P stored
  rcases same with rfl | same
  · exact stored
  · exact Keeps.of_cache same P (evictSignal_keeps state P stored)

variable (sem world maxKvEntries taskId) in
/-- What a cached pass does. -/
theorem execute_pass (identified : passOf conv payload = some (run, shardIndex)) (state : KvState (List Cache)) :
    (∃ text, (execute conv payload sem world maxKvEntries taskId state).2 = .raised text ∧
      Keeps state (execute conv payload sem world maxKvEntries taskId state).1) ∨
    ∃ call kvs, (execute conv payload sem world maxKvEntries taskId state).2.forward = some call ∧
      call.newKvs = some kvs ∧
      PassRan conv sem payload maxKvEntries run shardIndex state
        (execute conv payload sem world maxKvEntries taskId state).1 call kvs := by
  obtain ⟨cached, use, indexed⟩ := passOf_cachedRun identified
  obtain ⟨text, raised, same⟩ | ⟨built, passIndex, call, ready, _, called, ran⟩ :=
    execute_cases conv payload sem world maxKvEntries taskId state
  · exact .inl ⟨text, raised, .of_evictSignal same⟩
  · obtain ⟨_, _, _, _, _, _, _, index, _⟩ := buildShard_ok ready
    cases indexed.symm.trans index
    obtain ⟨same, _, passed⟩ := callForward_ok called
    obtain ⟨given, kvs, read, past, offset, new, forwarded⟩ := passed use
    refine .inr ⟨call, kvs, by rw [ran], new, ?_, ⟨given, read, ?_⟩, ?_, ?_⟩
    · rw [past, cached]
      exact kvCacheGet_value ..
    · rw [offset, past]
    · rw [same, past]
      exact forwarded
    · refine ⟨(pastOf conv (evictSignal conv payload state) (cachedRun conv payload) built.shardIndex).2, ?_, ?_⟩
      · rw [cached]
        exact kvCacheGet_cache ..
      · rw [ran, cached, new]
        rfl

variable (sem world maxKvEntries taskId) in
/-- A call that is no cached pass stores nothing. -/
theorem execute_other (other : passOf conv payload = none) (state : KvState (List Cache)) :
    Keeps state (execute conv payload sem world maxKvEntries taskId state).1 := by
  obtain ⟨_, _, same⟩ | ⟨built, passIndex, call, ready, _, called, ran⟩ :=
    execute_cases conv payload sem world maxKvEntries taskId state
  · exact .of_evictSignal same
  · obtain ⟨_, _, _, _, _, _, _, index, _⟩ := buildShard_ok ready
    have uncached : cachedRun conv payload = none := by
      cases cached : cachedRun conv payload with
      | none => rfl
      | some run => simp [passOf, cached, index, Except.toOption] at other
    rw [ran, uncached]
    exact evictSignal_keeps state

end ComputeCloudNode.LLMShardExecutor
