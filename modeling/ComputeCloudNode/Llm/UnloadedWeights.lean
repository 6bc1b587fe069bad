import ComputeCloudNode.Llm.Executor
import ComputeCloudNode.Llm.ShardedForward

/-! What `_run_shard` computes with. `load_state_dict` returns the parameters it
copied onto, and `_run_shard` drops that answer, so a parameter that no key of the
checkpoint names keeps its random initial value and the shard runs all the same. -/
namespace ComputeCloudNode.LLMShardExecutor
open ModelConfig ModelShard Weights

variable {V Tensor Row Cache Logits : Type} {conv : PayloadConversions V Row} {payload : ConfigDict V}
  {sem : CachedSemantics V Tensor Row Cache Logits} {world : World V Tensor} {source : ModelSource V Tensor}
  {keys : List String} {spec : ShardSpec} {cfg : LlamaConfig V} {built : BuiltShard V Tensor}

/-- What a payload asks for: the weights source and the keys it lists, the layer
range, and the config merged with the source's. -/
structure Resolves (conv : PayloadConversions V Row) (payload : ConfigDict V) (world : World V Tensor)
    (source : ModelSource V Tensor) (keys : List String) (spec : ShardSpec) (cfg : LlamaConfig V) : Prop where
  opened : ∃ uri, item payload "weights_uri" = .ok uri ∧ openSource world (conv.str uri) = .ok source
  listed : source.listKeys = .ok keys
  ranged : shardSpec conv payload = .ok spec
  configured : ∃ given sourceConfig config, payloadConfig conv payload = .ok given ∧
    source.getConfig = .ok sourceConfig ∧ withSourceConfig conv given sourceConfig = .ok config ∧
      parseConfig conv.toConversions config = .ok cfg

/-- Every parameter of the module was overwritten by a tensor of the checkpoint. -/
def FullyLoaded (source : ModelSource V Tensor) (keys : List String) (loadedModule : LoadedModule V Tensor) : Prop :=
  ∀ q ∈ loadedModule.own, q ∈ loadedModule.loaded ∧
    ∃ key ∈ keys, source.getTensor key = .ok (loadedModule.params q)

/-- Every parameter of a shard is named by a key of the checkpoint. -/
def KeysCover (keys : List String) (spec : ShardSpec) (tied : Bool) : Prop :=
  ∀ q ∈ ownParams spec tied, ∃ key ∈ keys, Names spec.startLayer key q

/-- A loaded module has the asked-for parameters; they are all overwritten iff the
keys cover them. -/
theorem loadModule_fullyLoaded_iff {config : ConfigDict V} {initial : Params Tensor}
    {loadedModule : LoadedModule V Tensor}
    (ran : loadModule sem.toSemantics conv.toConversions source.toWeightsSource config spec initial =
      .ok loadedModule) :
    loadedModule.spec = spec ∧ parseConfig conv.toConversions config = .ok loadedModule.cfg ∧
      ∃ keys, source.listKeys = .ok keys ∧
        (FullyLoaded source keys loadedModule ↔ KeysCover keys spec loadedModule.cfg.tieWordEmbeddings) := by
  simp only [loadModule, Fallible.bind_eq_ok_iff, Fallible.pure_eq_ok_iff] at ran
  obtain ⟨stateDict, fetched, cfg, created, ⟨params, loaded⟩, copied, rfl⟩ := ran
  obtain ⟨keys, listed, wantedKeys, tensors⟩ := loadShard_ok fetched
  refine ⟨rfl, (createModule_eq_ok_iff.mp created).1, keys, listed, ?_⟩
  constructor
  · intro full q owned
    have placed := (loadStateDict_copies copied q).2.mp (full q owned).1
    exact (copies_ne_nil_iff wantedKeys owned).mp placed
  · intro cover q owned
    have placed := (copies_ne_nil_iff wantedKeys owned).mpr (cover q owned)
    have loaded := (loadStateDict_copies copied q).2.mpr placed
    obtain ⟨entry, member, value⟩ := loaded_value copied loaded
    have kept : entry.1 ∈ keys.filter (wanted spec) := wantedKeys ▸ List.mem_map_of_mem member
    exact ⟨loaded, entry.1, List.mem_of_mem_filter kept, (tensors entry member).trans (congrArg Except.ok value.symm)⟩

theorem built_resolves (ran : buildShard conv payload sem world = .ok built) :
    ∃ keys, Resolves conv payload world built.source keys built.loadedModule.spec built.loadedModule.cfg ∧
      (FullyLoaded built.source keys built.loadedModule ↔
        KeysCover keys built.loadedModule.spec built.loadedModule.cfg.tieWordEmbeddings) := by
  obtain ⟨uri, config, sourceConfig, spec, read, configured, ranged, _, opened, fetched, merged, loaded⟩ :=
    buildShard_ok ran
  obtain ⟨rfl, parsed, keys, listed, iff_⟩ := loadModule_fullyLoaded_iff loaded
  exact ⟨keys, ⟨⟨uri, read, opened⟩, listed, ranged, config, sourceConfig, _, configured, fetched, merged, parsed⟩, iff_⟩

/-- When `_run_shard` returns an output, the parameters it was computed with were
all overwritten by tensors of the checkpoint iff every parameter of the shard is
named by a key of the checkpoint. -/
theorem output_from_loaded_weights_iff {maxKvEntries : Int} {state : KvState (List Cache)}
    {output : Output Row Logits}
    (returned : (runShard conv payload sem world maxKvEntries state).2.result = .ok output) :
    ∃ source keys spec cfg call, Resolves conv payload world source keys spec cfg ∧
      (runShard conv payload sem world maxKvEntries state).2.forward = some call ∧
      call.loadedModule.spec = spec ∧ call.loadedModule.cfg = cfg ∧
      (FullyLoaded source keys call.loadedModule ↔ KeysCover keys spec cfg.tieWordEmbeddings) := by
  unfold runShard at returned ⊢
  cases built : buildShard conv payload sem world with
  | error text =>
    rw [built] at returned
    cases returned
  | ok shard =>
    simp only [built] at returned ⊢
    obtain ⟨keys, resolves, iff_⟩ := built_resolves built
    obtain ⟨text, raised, _⟩ | ⟨passIndex, call, _, called, ran⟩ :=
      prepareAndRun_cases conv payload sem world maxKvEntries shard state
    · rw [raised] at returned
      cases returned
    · obtain ⟨same, _⟩ := callForward_ok called
      refine ⟨shard.source, keys, _, _, call, resolves, by rw [ran], ?_, ?_, ?_⟩
      · rw [same]
      · rw [same]
      · rw [same]
        exact iff_

/-! ### The model of one layer, served from a directory -/

/-- A JSON value that is neither a list nor an object. -/
inductive Scalar
  | null
  | bool (b : Bool)
  | int (n : Int)
  | text (s : String)
  deriving DecidableEq

namespace Scalar

def toInt : Scalar → Except String Int
  | null => .error "int() argument must be a string or a number, not 'NoneType'"
  | bool b => .ok (if b then 1 else 0)
  | int n => .ok n
  | text s => match s.toInt? with
    | some n => .ok n
    | none => .error "invalid literal for int() with base 10"

def conversions : PayloadConversions Scalar Int where
  int := toInt
  float v := (toInt v).map int
  bool
    | null => false
    | bool b => b
    | int n => n ≠ 0
    | text s => s ≠ ""
  widened v := (toInt v).map fun n => (n * 2667).tdiv 1000
  isNone v := v = null
  str
    | null => "None"
    | bool b => if b then "True" else "False"
    | int n => toString n
    | text s => s
  text
    | text s => some s
    | _ => none
  parsed
    | text s => .error s!"JSONDecodeError: {s}"
    | v => .ok v
  object _ := .error "argument is not iterable"
  modulo n v := do
    let m ← toInt v
    if m = 0 then throw "integer modulo by zero"
    return (n : Int).fmod m
  tensor _ := .error "TensorPayload.from_dict: expected a dict"

end Scalar

theorem integer_cache_grows {params : LayerParam → List Int × Int} {xs ys : List Int} {positions : List Int}
    {past : Option (Kv singleHead Int)} {kv : Kv singleHead Int} (sized : positions.length = xs.length)
    (ran : integerSemantics.layer cfg params xs positions past = .ok (ys, kv)) :
    kv.length = (past.map Kv.length).getD 0 + xs.length :=
  (LlamaDecoderLayer.forward_lengths sized ran).2

def integerCached : CachedSemantics Scalar (List Int × Int) Int (Kv singleHead Int) Int where
  toSemantics := integerSemantics
  cacheLength := Kv.length
  argmax _ := 0
  validate _ := .ok ()
  cache_grows := integer_cache_grows

/-- A directory with these weights, `tinyConfig` and no tokenizer. -/
def directory (checkpoint : Checkpoint (List Int × Int)) : ModelSource Scalar (List Int × Int) where
  toWeightsSource := checkpoint.source
  getConfig := .ok (tinyConfig.map fun (key, n) => (key, .int n))
  getTokenizerPath := .ok none

/-- `/weights` is the only directory, and a new module is filled with sevens. -/
def localWorld (checkpoint : Checkpoint (List Int × Int)) : World Scalar (List Int × Int) where
  parseFileUri uri := .ok (String.ofList (uri.toList.drop 7))
  parseHfUri _ := .error "not an hf:// URI"
  localWeightsSource dirPath :=
    if dirPath = "/weights" then .ok (directory checkpoint) else .error ("weights directory not found: " ++ dirPath)
  hfWeightsSource _ _ := .error "no network"
  encode _ _ := .error "no tokenizer"
  decode _ _ := .error "no tokenizer"
  initial _ := ([], 7)

/-- The whole model as one shard. -/
def promptPayload : ConfigDict Scalar :=
  [("kind", .text "llm_shard"), ("weights_uri", .text "file:///weights"), ("start_layer", .int 0),
    ("end_layer", .int 1), ("is_first", .bool true), ("is_last", .bool true), ("prompt", .text "a")]

/-- The checkpoint without its `lm_head`. -/
def headless : Checkpoint (List Int × Int) := { tinyCheckpoint with keys := tinyCheckpoint.keys.erase "lm_head.weight" }

/-- Without `lm_head` the logits are computed with its random initial value: 9
becomes 15. -/
theorem missing_head_returns_logits :
    (runShard Scalar.conversions promptPayload integerCached (localWorld headless) 64 {}).2.result =
        .ok (.final "" 0 [.logits 15] 0) ∧
      ∃ call ∈ (runShard Scalar.conversions promptPayload integerCached (localWorld headless) 64 {}).2.forward,
        ¬ FullyLoaded (directory headless) headless.keys call.loadedModule := by
  have facts : (runShard Scalar.conversions promptPayload integerCached (localWorld headless) 64 {}).2.result =
      .ok (.final "" 0 [.logits 15] 0) ∧
    ∃ call ∈ (runShard Scalar.conversions promptPayload integerCached (localWorld headless) 64 {}).2.forward,
      .lmHead ∈ call.loadedModule.own ∧ .lmHead ∉ call.loadedModule.loaded := by
    decide +kernel
  obtain ⟨returned, call, called, owned, missing⟩ := facts
  exact ⟨returned, call, called, fun full => missing (full .lmHead owned).1⟩

theorem output_from_loaded_weights_iff_complete :
    ∃ source keys spec cfg call,
      Resolves Scalar.conversions promptPayload (localWorld tinyCheckpoint) source keys spec cfg ∧
        (runShard Scalar.conversions promptPayload integerCached (localWorld tinyCheckpoint) 64 {}).2.forward =
          some call ∧
        FullyLoaded source keys call.loadedModule := by
  have returned : (runShard Scalar.conversions promptPayload integerCached (localWorld tinyCheckpoint) 64 {}).2.result =
      .ok (.final "" 0 [.logits 9] 0) := by
    decide +kernel
  obtain ⟨source, keys, spec, cfg, call, resolves, called, _, _, iff_⟩ := output_from_loaded_weights_iff returned
  refine ⟨source, keys, spec, cfg, call, resolves, called, iff_.mpr fun q owned => ?_⟩
  obtain ⟨uri, read, opened⟩ := resolves.opened
  cases read
  cases opened
  cases resolves.listed
  cases resolves.ranged
  have untied : q ∈ ownParams (wholeSpec 1) false := by
    cases q with
    | lmHead => exact lmHead_mem.mpr ⟨rfl, rfl⟩
    | embedTokens => exact embedTokens_mem.mpr rfl
    | norm => exact norm_mem.mpr rfl
    | layer index param => exact layer_mem.mpr (layer_mem.mp owned)
  exact ⟨hfName q, List.mem_map_of_mem untied, names_hfName q⟩

end ComputeCloudNode.LLMShardExecutor
