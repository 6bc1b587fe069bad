import ComputeCloudNode.Llm.ShardStages
import ComputeCloudNode.Values

/-! The payloads of `generate_demo.main`: one for each shard and pass, with the prompt or
the last token for the first shard and with the output of the shard before for every
other one. Read by `LLMShardExecutor`, they build the shards of the saved model and feed
them what was packed. -/
namespace ComputeCloudNode.LLMShardExecutor
open ModelConfig ModelShard Weights Uri

variable {F Row : Type}

/-- What reading a JSON payload leaves to floats, to `json` and to torch. -/
structure JsonLibrary (F Row : Type) where
  float : Value F → Except String (Value F)
  widened : Value F → Except String Int
  modulo : Nat → Value F → Except String Int
  loads : String → Except String (Value F)
  /-- `_tensor_payload_to_torch`. -/
  tensor : Value F → Except String (List Row)

/-- The config that the source's config is merged into. -/
def configObject : Value F → Except String (Dict F)
  | .dict items => .ok items
  | .str _ => .error "'str' object does not support item assignment"
  | .list _ => .error "list indices must be integers or slices, not str"
  | v => .error s!"argument of type '{v.typeName}' is not iterable"

def JsonLibrary.conversions [PyRuntime F] (lib : JsonLibrary F Row) : PayloadConversions (Value F) Row where
  int := Value.toInt
  float := lib.float
  bool := Value.truthy
  widened := lib.widened
  isNone := Value.isNone
  str := Value.text
  text
    | .str s => some s
    | _ => none
  parsed
    | .str s => lib.loads s
    | v => .ok v
  object := configObject
  modulo := lib.modulo
  tensor := lib.tensor

/-- A generation: its model, its prompt and its layer ranges. -/
structure Generation (F : Type) where
  runId : String
  weightsUri : String
  config : Dict F
  tokenizerUri : String
  prompt : String
  shardCount : Nat
  boundary : Nat → Nat
  nTokens : Nat

/-- What a shard is given in one pass. -/
inductive StageInput (F : Type)
  | prompt
  | nextToken (id : Int)
  | output (packed : Dict F)

variable (run : Generation F)

def Generation.inputFields : StageInput F → Dict F
  | .prompt => [("prompt", .str run.prompt), ("position_offset", .int 0)]
  | .nextToken id => [("next_token_id", .int id)]
  | .output packed => [("input", .dict packed)]

/-- `s0_payload` and `s1_payload`. -/
def Generation.payload (passIndex shard : Nat) (input : StageInput F) : Dict F :=
  [("kind", .str "llm_shard"), ("weights_uri", .str run.weightsUri), ("config", .dict run.config),
    ("start_layer", .int (run.boundary shard)), ("end_layer", .int (run.boundary (shard + 1))),
    ("shard_index", .int shard), ("shard_count", .int run.shardCount), ("is_first", .bool (shard = 0)),
    ("is_last", .bool (shard + 1 = run.shardCount)), ("tokenizer_uri", .str run.tokenizerUri),
    ("use_cache", .bool true), ("data_run_id", .str run.runId), ("pass_index", .int passIndex)] ++
    run.inputFields input

/-- What `execute` reads in a payload, apart from the input of the shard. -/
structure Asks [PyRuntime F] (lib : JsonLibrary F Row) (run : Generation F) (passIndex shard : Nat)
    (payload : Dict F) : Prop where
  task : isLlmShardTask lib.conversions payload = isLlmWeightsUri run.weightsUri
  weightsUri : item payload "weights_uri" = .ok (.str run.weightsUri)
  config : payloadConfig lib.conversions payload = .ok (some (.dict run.config))
  spec : shardSpec lib.conversions payload = .ok (partitionSpec run.shardCount run.boundary shard)
  shardIndex : getInt lib.conversions.toConversions payload ["shard_index"] 0 = .ok (shard : Int)
  passIndex : getInt lib.conversions.toConversions payload ["pass_index"] 0 = .ok (passIndex : Int)
  positionOffset : getInt lib.conversions.toConversions payload ["position_offset"] 0 = .ok 0
  useCache : getBool lib.conversions payload "use_cache" = true
  cachedRun : cachedRun lib.conversions payload = some (.str run.runId)
  tokenizer : getValue lib.conversions payload "tokenizer_uri" = some (.str run.tokenizerUri)
  evicts : payload.lookup "evict_run_id" = none

theorem payload_asks [PyRuntime F] (lib : JsonLibrary F Row) (passIndex shard : Nat) (input : StageInput F) :
    Asks lib run passIndex shard (run.payload passIndex shard input) := by
  constructor <;> cases input <;> rfl

/-! ### The model behind a generation -/

variable {Tensor Head Score Logits : Type} {layout : HeadLayout}

/-- A generation, the saved model it runs on and the tokens of its prompt. -/
structure Deployment (F Tensor : Type) where
  run : Generation F
  source : ModelSource (Value F) Tensor
  sourceConfig : Dict F
  checkpoint : Checkpoint Tensor
  cfg : LlamaConfig (Value F)
  whole : Params Tensor
  prompt : List Int

namespace Deployment

variable (model : LlamaArithmetic (Value F) Tensor Row Head Score Logits layout) (deployed : Deployment F Tensor)

def mergedConfig : Dict F := mergeConfig deployed.run.config deployed.sourceConfig

def layerCount : Nat := deployed.run.boundary deployed.run.shardCount

/-- The single module with all layers. -/
def single : TorchShardModule Row (Kv layout Head) Logits :=
  piece model.semantics.toSemantics deployed.cfg deployed.whole 0 deployed.layerCount true true

/-- The shard with this index. -/
def shardModule (shard : Nat) : TorchShardModule Row (Kv layout Head) Logits :=
  piece model.semantics.toSemantics deployed.cfg deployed.whole (deployed.run.boundary shard)
    (deployed.run.boundary (shard + 1)) (shard = 0) (shard + 1 = deployed.run.shardCount)

/-- The URI leads to a directory with the untied model, the shards are a partition of its
layers, and the prompt has tokens. -/
structure Sound [PyRuntime F] (lib : JsonLibrary F Row) (world : World (Value F) Tensor) : Prop where
  accepted : isLlmWeightsUri deployed.run.weightsUri
  opened : openSource world deployed.run.weightsUri = .ok deployed.source
  configured : deployed.source.getConfig = .ok deployed.sourceConfig
  weights : deployed.source.toWeightsSource = deployed.checkpoint.source
  created : createModule lib.conversions.toConversions deployed.mergedConfig (wholeSpec deployed.layerCount) =
    .ok deployed.cfg
  untied : deployed.cfg.tieWordEmbeddings = false
  shaped : deployed.checkpoint.Shaped deployed.layerCount deployed.cfg model.shape
  values : ∀ q ∈ ownParams (wholeSpec deployed.layerCount) deployed.cfg.tieWordEmbeddings,
    some (deployed.whole q) =
      (deployed.checkpoint.tensors deployed.layerCount deployed.cfg.tieWordEmbeddings q).getLast?
  positive : 1 ≤ deployed.run.shardCount
  first : deployed.run.boundary 0 = 0
  ordered : ∀ i < deployed.run.shardCount, deployed.run.boundary i ≤ deployed.run.boundary (i + 1)
  tokenized : promptTokens lib.conversions (deployed.run.payload 0 0 .prompt) world deployed.source
    deployed.mergedConfig = .ok deployed.prompt
  prompted : deployed.prompt ≠ []

/-- What `_run_shard` has built for a shard of the generation. -/
structure Builds (shard : Nat) (built : BuiltShard (Value F) Tensor) : Prop where
  source : built.source = deployed.source
  config : built.config = deployed.mergedConfig
  shardIndex : built.shardIndex = shard
  spec : built.loadedModule.spec = partitionSpec deployed.run.shardCount deployed.run.boundary shard
  shardModule : built.loadedModule.shard model.semantics.toSemantics = deployed.shardModule model shard

variable {model deployed} [PyRuntime F] {lib : JsonLibrary F Row} {world : World (Value F) Tensor}
  {passIndex shard : Nat} {payload : Dict F}

/-- Whatever the initial values of the new module are, it becomes the shard of the saved model. -/
theorem Sound.builds (sound : deployed.Sound model lib world) (below : shard < deployed.run.shardCount)
    (asks : Asks lib deployed.run passIndex shard payload) (initial : Params Tensor) :
    ∃ built, buildShard lib.conversions payload model.semantics { world with initial := initial } = .ok built ∧
      deployed.Builds model shard built := by
  have within : Within deployed.layerCount (deployed.run.boundary shard) (deployed.run.boundary (shard + 1)) :=
    ⟨sound.ordered shard below, boundary_le sound.ordered below (Nat.le_refl _)⟩
  have present : ∀ q ∈ ownParams (wholeSpec deployed.layerCount) deployed.cfg.tieWordEmbeddings,
      deployed.checkpoint.tensors deployed.layerCount deployed.cfg.tieWordEmbeddings q ≠ [] := by
    intro q owned none_
    have value := sound.values q owned
    rw [none_] at value
    cases value
  have shaped : deployed.checkpoint.Shaped deployed.layerCount deployed.cfg model.semantics.toSemantics.shape :=
    sound.shaped
  obtain ⟨params, loaded, ran, value⟩ := loadModule_values (decide (shard = 0))
    (decide (shard + 1 = deployed.run.shardCount)) within sound.created present shaped initial
  have agree : ∀ q ∈ ownParams (partitionSpec deployed.run.shardCount deployed.run.boundary shard)
      deployed.cfg.tieWordEmbeddings, params q = deployed.whole (globalParam (deployed.run.boundary shard) q) :=
    fun q owned => Option.some.inj ((value q owned).2.trans (sound.values _ (globalParam_mem within owned)).symm)
  have opened : openSource { world with initial := initial } deployed.run.weightsUri = .ok deployed.source := sound.opened
  refine ⟨⟨deployed.source, ⟨deployed.cfg, partitionSpec deployed.run.shardCount deployed.run.boundary shard, params,
    loaded⟩, deployed.mergedConfig, shard⟩, ?_, rfl, rfl, rfl, rfl, shard_eq_piece sound.untied agree⟩
  have text : lib.conversions.str (.str deployed.run.weightsUri) = deployed.run.weightsUri := rfl
  have merged : withSourceConfig lib.conversions (some (.dict deployed.run.config)) deployed.sourceConfig =
      .ok deployed.mergedConfig := rfl
  rw [← sound.weights] at ran
  simp only [buildShard, asks.weightsUri, asks.config, asks.spec, asks.shardIndex, text, opened, sound.configured,
    merged, Fallible.bind_ok]
  rw [partitionSpec, ran]
  rfl

/-! ### One pass of one shard -/

variable (model deployed) in
/-- The positions that an input of a shard stands for, once these tokens are generated. -/
inductive Feeds (pack : List (Item Row Logits) → Dict F) :
    StageInput F → Nat → List Int → List (Item Row Logits) → Prop
  | prompt : Feeds pack .prompt 0 [] (deployed.prompt.map .token)
  | nextToken {tokens : List Int} {id : Int} (some_ : tokens ≠ []) : Feeds pack (.nextToken id) 0 tokens [.token id]
  | output {tokens : List Int} {shard : Nat} {rows : List Row} (later : 0 < shard) (some_ : rows ≠ [])
      (valid : model.validate (rows.map .hidden) = .ok ()) :
      Feeds pack (.output (pack (rows.map .hidden))) shard tokens (rows.map .hidden)

/-- What `_torch_to_tensor_payload` packs and `TensorPayload.validate` accepts,
`_tensor_payload_to_torch` unpacks. -/
def Wire (model : LlamaArithmetic (Value F) Tensor Row Head Score Logits layout) (lib : JsonLibrary F Row)
    (pack : List (Item Row Logits) → Dict F) : Prop :=
  ∀ rows : List Row, rows ≠ [] → model.validate (rows.map .hidden) = .ok () →
    lib.tensor (.dict (pack (rows.map .hidden))) = .ok rows

variable {pack : List (Item Row Logits) → Dict F} {built : BuiltShard (Value F) Tensor} {input : StageInput F}
  {tokens : List Int} {items output : List (Item Row Logits)} {initial : Params Tensor}

omit [PyRuntime F] in
theorem Feeds.some_ (sound : deployed.prompt ≠ []) (feeds : deployed.Feeds model pack input shard tokens items) :
    items ≠ [] := by
  cases feeds with
  | prompt => simpa using sound
  | nextToken => exact List.cons_ne_nil _ _
  | output _ some_ => simpa using some_

variable (initial) in
theorem Sound.inputTensor (sound : deployed.Sound model lib world) (wire : Wire model lib pack)
    (builds : deployed.Builds model shard built) (feeds : deployed.Feeds model pack input shard tokens items) :
    inputTensor lib.conversions (deployed.run.payload tokens.length shard input) { world with initial := initial }
      built.source built.config built.shardIndex built.loadedModule.spec.isFirst true tokens.length = .ok items := by
  rw [builds.source, builds.config, builds.spec]
  cases feeds with
  | prompt =>
    have tokenized : promptTokens lib.conversions (deployed.run.payload 0 0 .prompt) { world with initial := initial }
        deployed.source deployed.mergedConfig = .ok deployed.prompt := sound.tokenized
    simp only [LLMShardExecutor.inputTensor, partitionSpec, rangeSpec, decide_true, if_true, List.length_nil,
      Int.natCast_zero, Int.lt_irrefl, and_false, if_false, tokenized]
    rfl
  | nextToken some_ =>
    have later : (0 : Int) < tokens.length := Int.natCast_pos.mpr (List.length_pos_of_ne_nil some_)
    simp only [LLMShardExecutor.inputTensor, partitionSpec, rangeSpec, decide_true, if_true, later, and_self]
    rfl
  | @output _ _ rows later some_ valid =>
    have inner : decide (shard = 0) = false := decide_eq_false (Nat.ne_of_gt later)
    have given : getValue lib.conversions
        (deployed.run.payload tokens.length shard (.output (pack (rows.map .hidden)))) "input" =
          some (.dict (pack (rows.map .hidden))) := rfl
    have unpacked : lib.conversions.tensor (.dict (pack (rows.map .hidden))) = .ok rows := wire rows some_ valid
    simp only [LLMShardExecutor.inputTensor, partitionSpec, rangeSpec, inner, Bool.false_eq_true, if_false, given,
      unpacked]
    rfl

variable (initial) in
/-- One pass of one shard decodes its input from the cached keys and values. -/
theorem Sound.callForward (sound : deployed.Sound model lib world) (wire : Wire model lib pack)
    (builds : deployed.Builds model shard built) (feeds : deployed.Feeds model pack input shard tokens items)
    (past : Option (List (Kv layout Head)))
    (valid : (model.stageAt deployed.cfg deployed.whole deployed.run.shardCount deployed.run.boundary shard).Valid
      (past.getD (model.freshAt deployed.cfg deployed.whole deployed.run.boundary shard))) :
    ((callForward lib.conversions (deployed.run.payload tokens.length shard input) model.semantics
        { world with initial := initial } built true tokens.length past).toOption.map fun call =>
          (call.output, call.newKvs)) =
      ((model.stageAt deployed.cfg deployed.whole deployed.run.shardCount deployed.run.boundary shard).run
        (past.getD (model.freshAt deployed.cfg deployed.whole deployed.run.boundary shard)) items).map
          fun read => (read.1, some read.2) := by
  have asks := payload_asks deployed.run lib tokens.length shard input
  have given := sound.inputTensor initial wire builds feeds
  have passed := forward_cached_stage (feeds.some_ sound.prompted) past valid
  simp only [LLMShardExecutor.callForward, asks.positionOffset, given, Fallible.bind_ok, if_true, inferOffset_zero,
    builds.shardModule, shardModule]
  rw [LlamaArithmetic.stageAt, LlamaArithmetic.freshAt, ← passed]
  cases (piece model.semantics.toSemantics deployed.cfg deployed.whole (deployed.run.boundary shard)
    (deployed.run.boundary (shard + 1)) (decide (shard = 0)) (decide (shard + 1 = deployed.run.shardCount))).forward
    items past (pastLength model.semantics past) (some true) <;> rfl

theorem tokenizerPath_asks {other : Dict F} {otherPass otherShard : Nat}
    (asks : Asks lib deployed.run passIndex shard payload) (same : Asks lib deployed.run otherPass otherShard other)
    (source : ModelSource (Value F) Tensor) :
    tokenizerPath lib.conversions payload world source = tokenizerPath lib.conversions other world source := by
  simp only [tokenizerPath, asks.tokenizer, same.tokenizer]

theorem Sound.tokenizerPath (sound : deployed.Sound model lib world)
    (asks : Asks lib deployed.run passIndex shard payload) :
    ∃ path, tokenizerPath lib.conversions payload world deployed.source = .ok path := by
  have tokenized := sound.tokenized
  simp only [promptTokens, Fallible.bind_eq_ok_iff] at tokenized
  obtain ⟨path, found, _⟩ := tokenized
  exact ⟨path, (tokenizerPath_asks asks (payload_asks deployed.run lib 0 0 .prompt) deployed.source).trans found⟩

theorem Builds.packOutput_hidden (builds : deployed.Builds model shard built)
    (inner : shard + 1 ≠ deployed.run.shardCount) :
    packOutput lib.conversions payload model.semantics { world with initial := initial } built output =
      (model.validate output).map fun _ => .hidden output shard := by
  simp only [packOutput, builds.spec, partitionSpec, rangeSpec, inner, decide_false, Bool.false_eq_true, if_false,
    builds.shardIndex]
  rfl

variable (initial) in
theorem Sound.packOutput_final (sound : deployed.Sound model lib world) (builds : deployed.Builds model shard built)
    (asks : Asks lib deployed.run passIndex shard payload) (last : shard + 1 = deployed.run.shardCount)
    {end_ : Item Row Logits} (some_ : output.getLast? = some end_) :
    ∃ token, packOutput lib.conversions payload model.semantics { world with initial := initial } built output =
      (model.validate output).map fun _ => .final token (model.argmax end_) output shard := by
  obtain ⟨path, found⟩ := sound.tokenizerPath asks
  have found : LLMShardExecutor.tokenizerPath lib.conversions payload { world with initial := initial }
      deployed.source = .ok path := found
  refine ⟨(path.bind fun path => (world.decode path (model.argmax end_)).toOption).getD "", ?_⟩
  simp only [packOutput, builds.spec, partitionSpec, rangeSpec, last, decide_true, if_true, some_, builds.source,
    found, Fallible.bind_ok, builds.shardIndex]
  cases path <;> rfl

end Deployment

end ComputeCloudNode.LLMShardExecutor
