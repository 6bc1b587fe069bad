import ComputeCloudNode.Llm.Generation

/-! What a cached pass leaves behind for the next delivery of the same pass. The
keys and values are stored as soon as `module.forward` returns, before the output
is packed, and an entry always belongs to the last forward pass of its run and
shard: neither a failure after the forward pass nor the index of the pass matters. -/
namespace ComputeCloudNode.LLMShardExecutor
open ModelConfig ModelShard Weights KvState

variable {V Tensor Row Cache Logits : Type} {conv : PayloadConversions V Row} {payload : ConfigDict V}
  {sem : CachedSemantics V Tensor Row Cache Logits} {world : World V Tensor} {maxKvEntries : Int} {taskId : String}
  {state : KvState (List Cache)} {run : V} {shardIndex : Int}

/-! ### A pass that raises -/

/-- Without an eviction signal a call touches the cache only by its own pass. -/
theorem evictSignal_eq (kept : ∀ v ∈ payload.lookup "evict_run_id", conv.bool v = false)
    (state : KvState (List Cache)) : evictSignal conv payload state = state := by
  unfold evictSignal
  split
  next v found => rw [kept v found]; rfl
  next => rfl

/-- A call that raises before `module.forward` returns leaves the cache as it was. One
that raises afterwards does so while packing its output; if it is a cached pass, its
keys and values are stored by then, as those of a pass that returns. -/
theorem failed_pass_cache (kept : ∀ v ∈ payload.lookup "evict_run_id", conv.bool v = false) {text : String}
    (failed : (execute conv payload sem world maxKvEntries taskId state).2.result = .error text) :
    ((execute conv payload sem world maxKvEntries taskId state).2.forward = none ∧
      (execute conv payload sem world maxKvEntries taskId state).1.cache = state.cache) ∨
    ∃ built call, buildShard conv payload sem world = .ok built ∧
      (execute conv payload sem world maxKvEntries taskId state).2.forward = some call ∧
      packOutput conv payload sem world built call.output = .error text ∧
      (cachedRun conv payload = none →
        (execute conv payload sem world maxKvEntries taskId state).1.cache = state.cache) ∧
      ∀ run, cachedRun conv payload = some run → ∃ kvs, call.newKvs = some kvs ∧
        (execute conv payload sem world maxKvEntries taskId state).1 =
          (state.kvCacheGet (conv.str run) built.shardIndex).2.kvCachePut maxKvEntries (conv.str run)
            built.shardIndex kvs := by
  obtain ⟨_, raised, same⟩ | ⟨built, passIndex, call, ready, _, called, ran⟩ :=
    execute_cases conv payload sem world maxKvEntries taskId state
  · rw [evictSignal_eq kept] at same
    refine .inl ⟨by rw [raised]; rfl, ?_⟩
    rcases same with same | same
    · rw [same]
    · exact same
  · rw [evictSignal_eq kept] at called ran
    rw [ran] at failed ⊢
    refine .inr ⟨built, call, ready, rfl, failed, fun uncached => ?_, fun run cached => ?_⟩
    · rw [uncached]
      rfl
    · obtain ⟨_, _, passed⟩ := callForward_ok called
      obtain ⟨_, kvs, _, _, _, new, _⟩ := passed (use_cache_of_cachedRun cached)
      refine ⟨kvs, new, ?_⟩
      rw [cached, new]
      rfl

/-- `parse_file_uri` refuses a host. -/
def strictWorld : World Scalar (List Int × Int) :=
  { localWorld tinyCheckpoint with
    parseFileUri := fun uri =>
      if Uri.startsWith uri.toList "file:///" then .ok (String.ofList (uri.toList.drop 7))
      else .error "file URI with non-local host is not supported" }

/-- The tokenizer of a later pass is not read before the output is packed. -/
def wrongTokenizer : ConfigDict Scalar :=
  (passCall "a" 1).payload ++ [("tokenizer_uri", .text "file://tokenizer.json")]

/-- The pass ran and stored its cache, then the packing raised. -/
theorem wrongTokenizer_ends :
    (execute Scalar.conversions wrongTokenizer integerCached strictWorld 64 "task" {}).2.result =
        .error "file URI with non-local host is not supported" ∧
      (execute Scalar.conversions wrongTokenizer integerCached strictWorld 64 "task" {}).2.forward.isSome ∧
      ((execute Scalar.conversions wrongTokenizer integerCached strictWorld 64 "task" {}).1.cache.lookup
        ("a", 0)).isSome := by
  decide +kernel

theorem failed_packing_stores :
    wrongTokenizer.lookup "evict_run_id" = none ∧
      (execute Scalar.conversions wrongTokenizer integerCached strictWorld 64 "task" {}).2.result =
        .error "file URI with non-local host is not supported" ∧
      ({} : KvState (List (Kv singleHead Int))).cache.lookup ("a", 0) = none ∧
      ((execute Scalar.conversions wrongTokenizer integerCached strictWorld 64 "task" {}).1.cache.lookup
        ("a", 0)).isSome :=
  ⟨rfl, wrongTokenizer_ends.1, rfl, wrongTokenizer_ends.2.2⟩

theorem failed_pass_cache_wrong_tokenizer :
    ∃ (built : BuiltShard Scalar (List Int × Int))
      (call : ForwardCall Scalar (List Int × Int) Int (Kv singleHead Int) Int) (kvs : List (Kv singleHead Int)),
      buildShard Scalar.conversions wrongTokenizer integerCached strictWorld = .ok built ∧
      packOutput Scalar.conversions wrongTokenizer integerCached strictWorld built call.output =
        .error "file URI with non-local host is not supported" ∧
      (execute Scalar.conversions wrongTokenizer integerCached strictWorld 64 "task" {}).1 =
        (({} : KvState (List (Kv singleHead Int))).kvCacheGet "a" built.shardIndex).2.kvCachePut 64 "a"
          built.shardIndex kvs := by
  obtain ⟨failed, forwarded, _⟩ := wrongTokenizer_ends
  obtain ⟨none_, _⟩ | ⟨built, call, ready, _, packed, _, stored⟩ := failed_pass_cache (by decide) failed
  · rw [none_] at forwarded
    cases forwarded
  · obtain ⟨kvs, _, after⟩ := stored (.text "a") (by decide)
    exact ⟨built, call, kvs, ready, packed, after⟩

/-! ### A pass that is delivered twice -/

end ComputeCloudNode.LLMShardExecutor
