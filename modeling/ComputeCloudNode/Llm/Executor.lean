import ComputeCloudNode.Llm.KvCache
import ComputeCloudNode.Llm.Uri
import ComputeCloudNode.Llm.Weights

/-! `LLMShardExecutor.execute`: the weights source and the module of a shard are
built anew for every payload, and only the key/value cache lives from one call to
the next. What a call reads outside (files, the Hub, tokenizers, the random
initial values of a module) comes in as its `World`. -/
namespace ComputeCloudNode.LLMShardExecutor
open ModelConfig ModelShard Weights Uri

/-- A payload is a JSON object; these are the conversions of its values. -/
structure PayloadConversions (V Row : Type) extends Conversions V where
  isNone : V → Bool
  str : V → String
  /-- The value if it is a `str`. -/
  text : V → Option String
  /-- `json.loads` of a text; anything else is kept. -/
  parsed : V → Except String V
  /-- A dict. Anything else raises, when the source's config is merged into it or in the
  constructor of the module. -/
  object : V → Except String (ConfigDict V)
  /-- `ord(c) % v`. -/
  modulo : Nat → V → Except String Int
  /-- `_tensor_payload_to_torch`. -/
  tensor : V → Except String (List Row)

/-- The arithmetic of a cached pass. Layers append their rows to the cache, as
`LlamaAttention` does. -/
structure CachedSemantics (V Tensor Row Cache Logits : Type) extends Semantics V Tensor Row Cache Logits where
  /-- `k.shape[2]`. -/
  cacheLength : Cache → Nat
  argmax : Item Row Logits → Int
  /-- `TensorPayload.validate` of a packed output. -/
  validate : List (Item Row Logits) → Except String Unit
  cache_grows : ∀ {cfg params xs positions past ys kv}, positions.length = xs.length →
    layer cfg params xs positions past = .ok (ys, kv) →
      cacheLength kv = (past.map cacheLength).getD 0 + xs.length

/-- A weights source with the files beside the tensors. -/
structure ModelSource (V Tensor : Type) extends WeightsSource Tensor where
  getConfig : Except String (ConfigDict V)
  getTokenizerPath : Except String (Option String)

/-- What a call finds outside. -/
structure World (V Tensor : Type) where
  parseFileUri : String → Except String String
  parseHfUri : String → Except String (String × String)
  localWeightsSource : String → Except String (ModelSource V Tensor)
  hfWeightsSource : String → String → Except String (ModelSource V Tensor)
  encode : String → String → Except String (List Int)
  decode : String → Int → Except String String
  /-- The random initial values of a new module. -/
  initial : Params Tensor

/-- A call of `module.forward` that returned. -/
structure ForwardCall (V Tensor Row Cache Logits : Type) where
  loadedModule : LoadedModule V Tensor
  input : List (Item Row Logits)
  pastKeyValues : Option (List Cache)
  positionOffset : Int
  useCache : Option Bool
  output : List (Item Row Logits)
  newKvs : Option (List Cache)

/-- The dict that `_pack_output` returns. -/
inductive Output (Row Logits : Type)
  | final (token : String) (tokenId : Int) (logits : List (Item Row Logits)) (shardIndex : Int)
  | hidden (output : List (Item Row Logits)) (shardIndex : Int)
  deriving DecidableEq

/-- How a call ended, and its call of `module.forward`, if that returned. -/
structure Outcome (V Tensor Row Cache Logits : Type) where
  forward : Option (ForwardCall V Tensor Row Cache Logits)
  result : Except String (Output Row Logits)

variable {V Tensor Row Cache Logits : Type}

def Outcome.raised (text : String) : Outcome V Tensor Row Cache Logits := ⟨none, .error text⟩

/-! ### Reading a payload -/

/-- `payload[key]`. -/
def item (payload : ConfigDict V) (key : String) : Except String V :=
  match payload.lookup key with
  | some v => .ok v
  | none => .error key

variable (conv : PayloadConversions V Row) (payload : ConfigDict V)

/-- `payload.get(key)`, when it is not `None`. -/
def getValue (key : String) : Option V := (payload.lookup key).filter fun v => !conv.isNone v

/-- `bool(payload.get(key, False))`. -/
def getBool (key : String) : Bool := (payload.lookup key).any conv.bool

/-- `is_llm_shard_task`. -/
def isLlmShardTask : Bool :=
  (payload.lookup "kind").bind conv.text = some "llm_shard" &&
    isLlmWeightsUri (((payload.lookup "weights_uri").map conv.str).getD "")

def shardSpec : Except String ShardSpec := do
  let startLayer ← conv.int (← item payload "start_layer")
  let endLayer ← conv.int (← item payload "end_layer")
  return { startLayer, endLayer, isFirst := getBool conv payload "is_first", isLast := getBool conv payload "is_last" }

/-- `payload.get("config", {})`, parsed if it is a text. -/
def payloadConfig : Except String (Option V) :=
  match payload.lookup "config" with
  | some v => (conv.parsed v).map some
  | none => .ok none

/-- The config with what the source's config adds to it. -/
def withSourceConfig (config : Option V) (sourceConfig : ConfigDict V) : Except String (ConfigDict V) :=
  match config with
  | some v => (conv.object v).map fun config => mergeConfig config sourceConfig
  | none => .ok (mergeConfig [] sourceConfig)

/-- The weights source of `_run_shard`. -/
def openSource (world : World V Tensor) (weightsUri : String) : Except String (ModelSource V Tensor) :=
  if startsWith weightsUri.toList "file://" then do
    let dirPath ← world.parseFileUri weightsUri
    world.localWeightsSource dirPath
  else do
    let (modelId, revision) ← world.parseHfUri weightsUri
    world.hfWeightsSource modelId revision

/-- The path of `tokenizer.json`, if there is one. -/
def tokenizerPath (world : World V Tensor) (source : ModelSource V Tensor) : Except String (Option String) :=
  match getValue conv payload "tokenizer_uri" with
  | none => source.getTokenizerPath
  | some v =>
    if conv.bool v then
      match conv.text v with
      | none => .error "object has no attribute 'startswith'"
      | some path =>
        if startsWith path.toList "file://" then (world.parseFileUri path).map some else .ok (some path)
    else .ok none

/-! ### A call -/

/-- The tokens of a prompt. -/
def promptTokens (world : World V Tensor) (source : ModelSource V Tensor) (config : ConfigDict V) :
    Except String (List Int) := do
  let prompt := ((payload.lookup "prompt").map conv.str).getD ""
  match ← tokenizerPath conv payload world source with
  | some path => world.encode path prompt
  | none => prompt.toList.mapM fun c =>
    match config.lookup "vocab_size" with
    | some v => conv.modulo c.toNat v
    | none => .ok (c.toNat % 256 : Nat)

/-- The `input_tensor` of `_prepare_and_run`. -/
def inputTensor (world : World V Tensor) (source : ModelSource V Tensor) (config : ConfigDict V)
    (shardIndex : Int) (isFirst useCache : Bool) (passIndex : Int) : Except String (List (Item Row Logits)) :=
  if isFirst then
    if useCache ∧ 0 < passIndex then
      match getValue conv payload "next_token_id" with
      | none => .error s!"LLM shard {shardIndex}: generation pass {passIndex} needs 'next_token_id' for shard 0"
      | some v => (conv.int v).map fun token => [.token token]
    else (promptTokens conv payload world source config).map fun tokens => tokens.map .token
  else
    match getValue conv payload "input" with
    | none => .error s!"LLM shard {shardIndex}: no 'input' TensorPayload"
    | some v => (conv.tensor v).map fun rows => rows.map .hidden

variable (sem : CachedSemantics V Tensor Row Cache Logits) (world : World V Tensor)

/-- `position_offset`, read off the cache if the payload gives none. -/
def inferOffset (given : Int) (pastKv : Option (List Cache)) : Int :=
  match pastKv with
  | some (first :: _) => if given = 0 then sem.cacheLength first else given
  | _ => given

/-- What `_run_shard` hands to `_prepare_and_run`. -/
structure BuiltShard (V Tensor : Type) where
  source : ModelSource V Tensor
  loadedModule : LoadedModule V Tensor
  config : ConfigDict V
  shardIndex : Int

/-- `_run_shard` up to `_prepare_and_run`. -/
def buildShard : Except String (BuiltShard V Tensor) := do
  let weightsUri ← item payload "weights_uri"
  let config ← payloadConfig conv payload
  let spec ← shardSpec conv payload
  let shardIndex ← getInt conv.toConversions payload ["shard_index"] 0
  let source ← openSource world (conv.str weightsUri)
  let sourceConfig ← source.getConfig
  let config ← withSourceConfig conv config sourceConfig
  let loadedModule ←
    loadModule sem.toSemantics conv.toConversions source.toWeightsSource config spec world.initial
  return { source, loadedModule, config, shardIndex }

/-- `_prepare_and_run` from the lookup in the cache to the end of `module.forward`. -/
def callForward (built : BuiltShard V Tensor) (useCache : Bool) (passIndex : Int) (pastKv : Option (List Cache)) :
    Except String (ForwardCall V Tensor Row Cache Logits) := do
  let given ← getInt conv.toConversions payload ["position_offset"] 0
  let positionOffset := inferOffset sem given pastKv
  let input ← inputTensor conv payload world built.source built.config built.shardIndex
    built.loadedModule.spec.isFirst useCache passIndex
  let shard := built.loadedModule.shard sem.toSemantics
  if useCache then
    let (output, newKvs) ← shard.forward input pastKv positionOffset (some true)
    return { loadedModule := built.loadedModule, input, pastKeyValues := pastKv, positionOffset,
             useCache := some true, output, newKvs }
  else
    let (output, newKvs) ← shard.forward input none 0 none
    return { loadedModule := built.loadedModule, input, pastKeyValues := none, positionOffset := 0,
             useCache := none, output, newKvs }

/-- `_pack_output`. -/
def packOutput (built : BuiltShard V Tensor) (output : List (Item Row Logits)) :
    Except String (Output Row Logits) :=
  if built.loadedModule.spec.isLast then
    match output.getLast? with
    | none => .error "index -1 is out of bounds for dimension 1 with size 0"
    | some lastLogits => do
      let tokenId := sem.argmax lastLogits
      let token := match ← tokenizerPath conv payload world built.source with
        | some path => ((world.decode path tokenId).toOption).getD ""
        | none => ""
      sem.validate output
      return .final token tokenId output built.shardIndex
  else do
    sem.validate output
    return .hidden output built.shardIndex

/-- The run whose cache entry a call uses: `data_run_id`, with `use_cache`. -/
def cachedRun : Option V := if getBool conv payload "use_cache" then getValue conv payload "data_run_id" else none

/-- The cached keys and values a call starts from. -/
def pastOf (state : KvState (List Cache)) (run : Option V) (shardIndex : Int) :
    Option (List Cache) × KvState (List Cache) :=
  match run with
  | some run => state.kvCacheGet (conv.str run) shardIndex
  | none => (none, state)

/-- Store the keys and values of a cached call. -/
def store (maxKvEntries : Int) (state : KvState (List Cache)) (run : Option V) (shardIndex : Int)
    (newKvs : Option (List Cache)) : KvState (List Cache) :=
  match run, newKvs with
  | some run, some newKvs => state.kvCachePut maxKvEntries (conv.str run) shardIndex newKvs
  | _, _ => state

/-- `_prepare_and_run`. -/
def prepareAndRun (maxKvEntries : Int) (built : BuiltShard V Tensor) (state : KvState (List Cache)) :
    KvState (List Cache) × Outcome V Tensor Row Cache Logits :=
  let run := cachedRun conv payload
  match getInt conv.toConversions payload ["pass_index"] 0 with
  | .error text => (state, .raised text)
  | .ok passIndex =>
    let (pastKv, state) := pastOf conv state run built.shardIndex
    match callForward conv payload sem world built (getBool conv payload "use_cache") passIndex pastKv with
    | .error text => (state, .raised text)
    | .ok call =>
      (store conv maxKvEntries state run built.shardIndex call.newKvs,
        { forward := some call, result := packOutput conv payload sem world built call.output })

/-- `_run_shard`. -/
def runShard (maxKvEntries : Int) (state : KvState (List Cache)) :
    KvState (List Cache) × Outcome V Tensor Row Cache Logits :=
  match buildShard conv payload sem world with
  | .error text => (state, .raised text)
  | .ok built => prepareAndRun conv payload sem world maxKvEntries built state

/-- The eviction signal of a payload. -/
def evictSignal (state : KvState (List Cache)) : KvState (List Cache) :=
  match payload.lookup "evict_run_id" with
  | some v => if conv.bool v then (state.evictRunId (conv.str v)).2 else state
  | none => state

/-- `execute`. A payload that is no dict is refused like one of another kind. -/
def execute (maxKvEntries : Int) (taskId : String) (state : KvState (List Cache)) :
    KvState (List Cache) × Outcome V Tensor Row Cache Logits :=
  if isLlmShardTask conv payload then
    runShard conv payload sem world maxKvEntries (evictSignal conv payload state)
  else (state, .raised s!"LLMShardExecutor: payload is not an LLM shard task: {taskId}")

/-! ### What a call can do -/

variable {conv payload sem world} {maxKvEntries : Int} {built : BuiltShard V Tensor}
  {state : KvState (List Cache)} {call : ForwardCall V Tensor Row Cache Logits}

theorem buildShard_ok (ran : buildShard conv payload sem world = .ok built) :
    ∃ uri config sourceConfig spec, item payload "weights_uri" = .ok uri ∧ payloadConfig conv payload = .ok config ∧
      shardSpec conv payload = .ok spec ∧
        getInt conv.toConversions payload ["shard_index"] 0 = .ok built.shardIndex ∧
          openSource world (conv.str uri) = .ok built.source ∧ built.source.getConfig = .ok sourceConfig ∧
            withSourceConfig conv config sourceConfig = .ok built.config ∧
              loadModule sem.toSemantics conv.toConversions built.source.toWeightsSource built.config spec
                world.initial = .ok built.loadedModule := by
  simp only [buildShard, Fallible.bind_eq_ok_iff, Fallible.pure_eq_ok_iff] at ran
  obtain ⟨uri, read, config, configured, spec, ranged, shardIndex, indexed, source, opened, sourceConfig, fetched,
    merged, joined, loadedModule, loaded, rfl⟩ := ran
  exact ⟨uri, config, sourceConfig, spec, read, configured, ranged, indexed, opened, fetched, joined, loaded⟩

/-- A cached pass returns the new keys and values. -/
theorem forward_cached {shard : TorchShardModule Row Cache Logits} {input output : List (Item Row Logits)}
    {past newKvs : Option (List Cache)} {positionOffset : Int}
    (ran : shard.forward input past positionOffset (some true) = .ok (output, newKvs)) :
    ∃ rows kvs, input.mapM shard.embed = .ok rows ∧ newKvs = some kvs ∧
      ∃ ys, TorchShardModule.runLayers (ropePositions rows.length positionOffset) (TorchShardModule.pastKv true past) 0
        shard.layers rows = .ok (ys, kvs) := by
  simp only [TorchShardModule.forward, Option.getD_some, Bool.not_true, Bool.and_false, Bool.false_eq_true, if_false,
    if_true, Fallible.bind_eq_ok_iff, Fallible.pure_eq_ok_iff, Prod.exists, Prod.mk.injEq] at ran
  obtain ⟨rows, embedded, ys, kvs, layered, answers, finished, rfl, rfl⟩ := ran
  exact ⟨rows, kvs, embedded, rfl, ys, layered⟩

theorem callForward_ok {useCache : Bool} {passIndex : Int} {pastKv : Option (List Cache)}
    (called : callForward conv payload sem world built useCache passIndex pastKv = .ok call) :
    call.loadedModule = built.loadedModule ∧
      inputTensor conv payload world built.source built.config built.shardIndex built.loadedModule.spec.isFirst
        useCache passIndex = .ok call.input ∧
      (useCache → ∃ given kvs,
        getInt conv.toConversions payload ["position_offset"] 0 = .ok given ∧ call.pastKeyValues = pastKv ∧
          call.positionOffset = inferOffset sem given pastKv ∧ call.newKvs = some kvs ∧
          (built.loadedModule.shard sem.toSemantics).forward call.input pastKv call.positionOffset (some true) =
            .ok (call.output, some kvs)) := by
  simp only [callForward, Fallible.bind_eq_ok_iff] at called
  obtain ⟨given, read, input, selected, called⟩ := called
  cases useCache with
  | true =>
    simp only [if_true, Fallible.bind_eq_ok_iff, Fallible.pure_eq_ok_iff, Prod.exists] at called
    obtain ⟨output, newKvs, ran, rfl⟩ := called
    obtain ⟨_, kvs, _, rfl, _⟩ := forward_cached ran
    exact ⟨rfl, selected, fun _ => ⟨given, kvs, read, rfl, rfl, rfl, ran⟩⟩
  | false =>
    simp only [Bool.false_eq_true, if_false, Fallible.bind_eq_ok_iff, Fallible.pure_eq_ok_iff, Prod.exists] at called
    obtain ⟨output, newKvs, ran, rfl⟩ := called
    exact ⟨rfl, selected, nofun⟩

variable (conv payload sem world maxKvEntries built) in
/-- `_prepare_and_run` either raises before `module.forward` returns, and stores
nothing, or stores what that call returned. -/
theorem prepareAndRun_cases (state : KvState (List Cache)) :
    (∃ text, (prepareAndRun conv payload sem world maxKvEntries built state).2 = .raised text ∧
      (prepareAndRun conv payload sem world maxKvEntries built state).1.cache = state.cache) ∨
    ∃ passIndex call, getInt conv.toConversions payload ["pass_index"] 0 = .ok passIndex ∧
      callForward conv payload sem world built (getBool conv payload "use_cache") passIndex
        (pastOf conv state (cachedRun conv payload) built.shardIndex).1 = .ok call ∧
      prepareAndRun conv payload sem world maxKvEntries built state =
        (store conv maxKvEntries (pastOf conv state (cachedRun conv payload) built.shardIndex).2
          (cachedRun conv payload) built.shardIndex call.newKvs,
          { forward := some call, result := packOutput conv payload sem world built call.output }) := by
  have kept : (pastOf conv state (cachedRun conv payload) built.shardIndex).2.cache = state.cache := by
    unfold pastOf
    cases cachedRun conv payload with
    | none => rfl
    | some run => exact state.kvCacheGet_cache _ _
  unfold prepareAndRun
  cases getInt conv.toConversions payload ["pass_index"] 0 with
  | error text => exact .inl ⟨text, rfl, rfl⟩
  | ok passIndex =>
    cases called : callForward conv payload sem world built (getBool conv payload "use_cache") passIndex
        (pastOf conv state (cachedRun conv payload) built.shardIndex).1 with
    | error text =>
      simp only [called]
      exact .inl ⟨text, rfl, kept⟩
    | ok call =>
      simp only [called]
      exact .inr ⟨passIndex, call, rfl, called, rfl⟩

end ComputeCloudNode.LLMShardExecutor
