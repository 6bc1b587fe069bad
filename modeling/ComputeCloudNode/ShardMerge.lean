import ComputeCloudNode.DataWorker
import ComputeCloudNode.ToyTransform

/-! Activations that are divided into chunks and layers that are divided into shards:
every chunk is passed through the shards, and the merge of the chunks is the run of all
layers on all activations. -/
namespace ComputeCloudNode.DataWorker
open PipelineExecutor

variable {F : Type} [PyRuntime F] (hash : List UInt8 → List UInt8) (createFile : String → Except String String)
  (executor : Option (BaseExecutor F)) {modelName : String} {startLayer endLayer : Int} {payload : Dict F}

/-- A payload whose spec is a range of layers of a model. What else it holds is free,
except that a position among the shards is a number. -/
structure ModelShard (modelName : String) (startLayer endLayer : Int) (payload : Dict F) : Prop where
  spec : ∃ spec, payload.lookup "shard_spec" = some (.dict spec) ∧
    spec.lookup "model_name" = some (.str modelName) ∧ spec.lookup "start_layer" = some (.int startLayer) ∧
    spec.lookup "end_layer" = some (.int endLayer)
  index : ∀ v, payload.lookup "shard_index" = some v → ∃ n, v = .int n
  count : ∀ v, payload.lookup "shard_count" = some v → ∃ n, v = .int n

/-- A chunk of the activations is passed from shard to shard. -/
def passChunk (payloads : List (Dict F)) (chunk : List Int) : Except String (Value F) :=
  payloads.foldlM (fun inputData payload => (computeShard hash createFile executor inputData payload).2) (.ofInts chunk)

omit [PyRuntime F] in
theorem field_int {key : String} (default_ : Int) (numbered : ∀ v, payload.lookup key = some v → ∃ n, v = .int n) :
    ∃ n, (payload.lookup key).getD (.int default_) = .int n := by
  cases found : payload.lookup key with
  | none => exact ⟨default_, rfl⟩
  | some v => exact numbered v found

/-- A model shard runs its layers on the chunk. -/
theorem ModelShard.computeShard (shard : ModelShard modelName startLayer endLayer payload) (named : modelName ≠ "")
    (natural : 0 ≤ startLayer) (ordered : startLayer ≤ endLayer) (values : List Int) :
    computeShard hash createFile executor (.ofInts values) payload =
      ([], .ok (.ofInts (runLayers hash modelName startLayer endLayer values))) := by
  obtain ⟨spec, given, model, start, stop⟩ := shard.spec
  obtain ⟨index, indexed⟩ := field_int 0 shard.index
  obtain ⟨count, counted⟩ := field_int 1 shard.count
  have nonempty : spec ≠ [] := by
    rintro rfl
    cases model
  have specified : shardSpec payload = .dict spec := by
    rw [shardSpec, given, Option.filter_some_pos (by simpa [Value.truthy] using nonempty), Option.getD_some]
  have layered : (if hasText payload "workload_type" "model_sharding" then .ok true else hasStartLayer (.dict spec)) =
      (.ok true : Except String Bool) := by
    rw [hasStartLayer, start, Option.isSome_some, ite_self]
  have stepPayload : ShardPayload modelName startLayer endLayer index count
      (Dicts.set "shard_count" (.int count) (Dicts.set "shard_index" (.int index) spec)) := by
    constructor
    · rw [Dicts.lookup_set_ne (by decide), Dicts.lookup_set_ne (by decide), model]
    · rw [Dicts.lookup_set_ne (by decide), Dicts.lookup_set_ne (by decide), start]
    · rw [Dicts.lookup_set_ne (by decide), Dicts.lookup_set_ne (by decide), stop]
    · rw [Dicts.lookup_set_ne (by decide), Dicts.lookup_set_self]
    · rw [Dicts.lookup_set_self]
  have ran : runModelShard hash (.dict spec) (.ofInts values) payload =
      .ok (.ofInts (runLayers hash modelName startLayer endLayer values)) := by
    have executed := execute_shard hash values stepPayload named natural ordered
    rw [Value.ofInts] at executed
    simp only [runModelShard, Value.ofInts, indexed, counted, pure_bind, executed]
    rfl
  simp only [DataWorker.computeShard, specified, layered, ran]

variable {payloads : List (Dict F)} {bounds : Nat → Nat}

/-- Consecutive model shards run their layers one after the other: induction on the shards. -/
theorem passChunk_ok (named : modelName ≠ "") (ordered : ∀ i < payloads.length, bounds i ≤ bounds (i + 1))
    (shards : ∀ i (inRange : i < payloads.length), ModelShard modelName (bounds i) (bounds (i + 1)) payloads[i])
    (chunk : List Int) :
    bounds 0 ≤ bounds payloads.length ∧ passChunk hash createFile executor payloads chunk =
      .ok (.ofInts (runLayers hash modelName (bounds 0) (bounds payloads.length) chunk)) := by
  induction payloads generalizing bounds chunk with
  | nil => exact ⟨Nat.le_refl _, by rw [List.length_nil, runLayers_self]; rfl⟩
  | cons payload rest ih =>
    have grows : bounds 0 ≤ bounds 1 := ordered 0 (Nat.zero_lt_succ _)
    have first := (shards 0 (Nat.zero_lt_succ _)).computeShard hash createFile executor named (Int.natCast_nonneg _)
      (Int.ofNat_le.mpr grows) chunk
    have others : ∀ i (inRange : i < rest.length),
        ModelShard modelName ((bounds ∘ Nat.succ) i) ((bounds ∘ Nat.succ) (i + 1)) rest[i] :=
      fun i inRange => shards (i + 1) (Nat.succ_lt_succ inRange)
    obtain ⟨later, passed⟩ := ih (fun i inRange => ordered (i + 1) (Nat.succ_lt_succ inRange)) others
      (runLayers hash modelName (bounds 0) (bounds 1) chunk)
    refine ⟨Nat.le_trans grows later, ?_⟩
    rw [runLayers_append (Int.ofNat_le.mpr grows) (Int.ofNat_le.mpr later)] at passed
    rw [passChunk, List.foldlM_cons]
    simp only [List.getElem_cons_zero] at first
    rw [first]
    exact passed

omit [PyRuntime F] in
theorem mapM_asList (lists : List (List (Value F))) : (lists.map Value.list).mapM asList = some lists := by
  induction lists with
  | nil => rfl
  | cons items rest ih => simp [asList, ih]

/-- The merge of lists of numbers, of which any may be empty. -/
theorem computeMerge_ofInts (chunks : List (List Int)) :
    computeMerge (.list (chunks.map (Value.ofInts (F := F)))) = .ofInts chunks.flatten := by
  have lists : (chunks.map (Value.ofInts (F := F))).mapM asList = some (chunks.map (List.map Value.int)) := by
    have each : chunks.map (Value.ofInts (F := F)) = (chunks.map (List.map Value.int)).map .list := by
      rw [List.map_map]
      rfl
    rw [each, mapM_asList]
  simp only [computeMerge, lists, Value.ofInts, List.map_flatten]

/-- Chunks that pass through all the shards of a named model are merged to what all
layers give on all activations. -/
theorem shards_merge_to_reference (named : modelName ≠ "") (start : bounds 0 = 0)
    (ordered : ∀ i < payloads.length, bounds i ≤ bounds (i + 1))
    (shards : ∀ i (inRange : i < payloads.length), ModelShard modelName (bounds i) (bounds (i + 1)) payloads[i])
    (chunks : List (List Int)) :
    ∃ results, chunks.mapM (passChunk hash createFile executor payloads) = .ok results ∧
      computeMerge (.list results) = .ofInts (runReference hash modelName (bounds payloads.length) chunks.flatten) := by
  have each : ∀ chunk, passChunk hash createFile executor payloads chunk =
      .ok (.ofInts (runLayers hash modelName 0 (bounds payloads.length) chunk)) := by
    intro chunk
    have passed := (passChunk_ok hash createFile executor named ordered shards chunk).2
    rwa [start, Nat.cast_zero] at passed
  refine ⟨(chunks.map (runLayers hash modelName 0 (bounds payloads.length))).map .ofInts, ?_, ?_⟩
  · rw [Fallible.mapM_eq_ok_iff, List.map_map, List.forall₂_map_right_iff, List.forall₂_same]
    exact fun chunk _ => each chunk
  · rw [computeMerge_ofInts, runReference, runLayers_flatten (Int.natCast_nonneg _)]

/-- A shard of the layers `[startLayer, endLayer)`. -/
def layersPayload (modelName : String) (startLayer endLayer : Int) : Dict Int :=
  [("kind", .str "data_shard"), ("shard_spec",
    .dict [("model_name", .str modelName), ("start_layer", .int startLayer), ("end_layer", .int endLayer)])]

theorem layersPayload_shard : ModelShard modelName startLayer endLayer (layersPayload modelName startLayer endLayer) where
  spec := ⟨_, rfl, rfl, rfl, rfl⟩
  index _ found := by cases found
  count _ found := by cases found

def toyShards : List (Dict Int) := [layersPayload "toy" 0 2, layersPayload "toy" 2 2]

def toyBounds (i : Nat) : Nat := if i = 0 then 0 else 2

/-- Two shards, one of them without layers, and an empty chunk. -/
theorem shards_merge_to_reference_toy :
    ∃ results, [[5], [], [-3, 8]].mapM (passChunk Sha256.digest .ok none toyShards) = .ok results ∧
      computeMerge (.list results) = .ofInts (runReference Sha256.digest "toy" 2 [5, -3, 8]) := by
  have ordered : ∀ i < toyShards.length, toyBounds i ≤ toyBounds (i + 1) := by
    decide
  have shards : ∀ i (inRange : i < toyShards.length), ModelShard "toy" (toyBounds i) (toyBounds (i + 1)) toyShards[i] := by
    intro i inRange
    rcases i with _ | _ | i
    · exact layersPayload_shard
    · exact layersPayload_shard
    · cases Nat.not_lt_of_le (Nat.le_add_left 2 i) inRange
  exact shards_merge_to_reference Sha256.digest .ok none (by decide) rfl ordered shards [[5], [], [-3, 8]]

/-- A model without a name is refused. -/
theorem unnamed_model_refused :
    ModelShard "" 0 1 (layersPayload "" 0 1) ∧
      [[5]].mapM (passChunk Sha256.digest .ok none [layersPayload "" 0 1]) =
        .error "PipelineShardExecutor payload must contain 'model_name'" ∧
      ¬ ∃ results, [[5]].mapM (passChunk Sha256.digest .ok none [layersPayload "" 0 1]) = .ok results ∧
        computeMerge (.list results) = .ofInts (runReference Sha256.digest "" 1 [5]) := by
  have refused : [[5]].mapM (passChunk Sha256.digest .ok none [layersPayload "" 0 1]) =
      .error "PipelineShardExecutor payload must contain 'model_name'" := rfl
  refine ⟨layersPayload_shard, refused, ?_⟩
  rintro ⟨results, passed, _⟩
  rw [refused] at passed
  cases passed

end ComputeCloudNode.DataWorker
