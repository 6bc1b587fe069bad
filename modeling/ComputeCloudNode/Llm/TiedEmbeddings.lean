import ComputeCloudNode.Llm.ShardedForward

/-! Models whose embedding matrix is also their output matrix. With
`tie_word_embeddings` the last shard has no `lm_head`, and `forward` calls
`embed_tokens` on the normed rows instead of multiplying them with the embedding
matrix. That looks up rows by index, so no shard of a tied model gives logits. -/
namespace ComputeCloudNode.Weights
open ModelConfig ModelShard

variable {V Tensor Row Cache Logits : Type} {conv : Conversions V} {sem : Semantics V Tensor Row Cache Logits}
  {source : WeightsSource Tensor} {config : ConfigDict V} {cfg : LlamaConfig V} {spec : ShardSpec}
  {initial : Params Tensor} {loadedModule : LoadedModule V Tensor} {past : Option (List Cache)}
  {positionOffset : Int} {useCache : Option Bool}

/-- The pass returns, for each position, the normed row multiplied with the
transposed embedding matrix of the checkpoint; that product is what `lm_head` would
compute with the embedding matrix as its weight. -/
def GivesTiedLogits (sem : Semantics V Tensor Row Cache Logits) (source : WeightsSource Tensor)
    (loadedModule : LoadedModule V Tensor) (items : List (Item Row Logits)) : Prop :=
  ∃ embedding xs ys, source.getTensor "model.embed_tokens.weight" = .ok embedding ∧
    items.mapM (loadedModule.shard sem).embed = .ok xs ∧
    layersPlain (ropePositions xs.length 0) (loadedModule.shard sem).layers xs = .ok ys ∧
    (loadedModule.shard sem).forward items none 0 none = .ok
      (ys.map fun y => .logits (sem.lmHead embedding (sem.norm loadedModule.cfg (loadedModule.params .norm) y)), none)

/-- What a loaded module was asked for. -/
theorem loadModule_ok (ran : loadModule sem conv source config spec initial = .ok loadedModule) :
    loadedModule.spec = spec ∧ parseConfig conv config = .ok loadedModule.cfg := by
  simp only [loadModule, Fallible.bind_eq_ok_iff, Fallible.pure_eq_ok_iff] at ran
  obtain ⟨_, _, cfg, created, _, _, rfl⟩ := ran
  exact ⟨rfl, (createModule_eq_ok_iff.mp created).1⟩

variable (sem) in
/-- The end of a tied last shard always raises. -/
theorem finish_tied (last : loadedModule.spec.isLast) (tied : loadedModule.cfg.tieWordEmbeddings) (ys : List Row) :
    ∃ text, (loadedModule.shard sem).finish ys = .error text := by
  simp only [TorchShardModule.finish, LoadedModule.shard, if_pos last, if_pos tied]
  split
  · exact ⟨_, rfl⟩
  · exact ⟨_, rfl⟩

theorem forward_tied (last : loadedModule.spec.isLast) (tied : loadedModule.cfg.tieWordEmbeddings)
    (items : List (Item Row Logits)) {answer : List (Item Row Logits) × Option (List Cache)} :
    (loadedModule.shard sem).forward items past positionOffset useCache ≠ .ok answer := by
  intro ran
  simp only [TorchShardModule.forward] at ran
  split at ran
  · cases ran
  · simp only [Fallible.bind_eq_ok_iff] at ran
    obtain ⟨xs, _, ⟨ys, _⟩, _, output, finished, _⟩ := ran
    obtain ⟨text, raised⟩ := finish_tied sem last tied ys
    rw [raised] at finished
    cases finished

/-- The last shard of every partition of a tied model raises on every input,
whatever the checkpoint holds, so it never gives the tied logits. -/
theorem tied_last_shard_raises (parsed : parseConfig conv config = .ok cfg) (tied : cfg.tieWordEmbeddings)
    {N : Nat} (positive : 1 ≤ N) (b : Nat → Nat)
    (ran : loadModule sem conv source config (partitionSpec N b (N - 1)) initial = .ok loadedModule)
    (items : List (Item Row Logits)) :
    (∀ past positionOffset useCache answer,
      (loadedModule.shard sem).forward items past positionOffset useCache ≠ .ok answer) ∧
      ¬ GivesTiedLogits sem source loadedModule items := by
  obtain ⟨asked, read⟩ := loadModule_ok ran
  have last : loadedModule.spec.isLast := by
    rw [asked]
    exact decide_eq_true (Nat.sub_add_cancel positive)
  cases parsed.symm.trans read
  refine ⟨fun past positionOffset useCache answer => forward_tied last tied items, ?_⟩
  rintro ⟨embedding, xs, ys, _, _, _, ran⟩
  exact forward_tied last tied items ran

/-! ### The model of one layer, tied -/

def tiedConfig : ConfigDict Int := tinyConfig ++ [("tie_word_embeddings", 1)]

/-- The checkpoint of a tied model has no `lm_head`. -/
def tiedCheckpoint : Checkpoint (List Int × Int) := { tinyCheckpoint with keys := (ownParams (wholeSpec 1) true).map hfName }

/-- The layer lies in the second of two shards, which is given a hidden state. -/
theorem tied_model_has_no_head :
    "model.embed_tokens.weight" ∈ tiedCheckpoint.keys ∧ "lm_head.weight" ∉ tiedCheckpoint.keys ∧
      shardForward integerSemantics integerConversions tiedCheckpoint.source tiedConfig
        (partitionSpec 2 (fun i => i - 1) 1) (fun _ => ([], 0)) [.hidden 3] =
          .error "'Module' object has no attribute 'embed_tokens'" := by
  decide +kernel

theorem tied_last_shard_raises_two :
    ∃ loadedModule, loadModule integerSemantics integerConversions tiedCheckpoint.source tiedConfig
        (partitionSpec 2 (fun i => i - 1) (2 - 1)) (fun _ => ([], 0)) = .ok loadedModule ∧
      (∀ past positionOffset useCache answer,
        (loadedModule.shard integerSemantics).forward [.hidden 3] past positionOffset useCache ≠ .ok answer) ∧
      ¬ GivesTiedLogits integerSemantics tiedCheckpoint.source loadedModule [.hidden 3] := by
  have loads : (loadModule integerSemantics integerConversions tiedCheckpoint.source tiedConfig
      (partitionSpec 2 (fun i => i - 1) (2 - 1)) (fun _ => ([], 0))).toOption.isSome := by
    decide +kernel
  cases ran : loadModule integerSemantics integerConversions tiedCheckpoint.source tiedConfig
      (partitionSpec 2 (fun i => i - 1) (2 - 1)) (fun _ => ([], 0)) with
  | error text =>
    rw [ran] at loads
    cases loads
  | ok loadedModule => exact ⟨loadedModule, rfl, tied_last_shard_raises rfl rfl (by decide) _ ran _⟩

end ComputeCloudNode.Weights
