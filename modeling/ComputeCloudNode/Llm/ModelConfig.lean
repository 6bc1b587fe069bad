import Mathlib.Data.List.Basic

/-! Which parameters a shard owns. `_parse_config` reads the merged config, and
`TorchShardModule.__init__` creates the parameters of a layer range from it,
with the names and shapes of its `state_dict`. -/
namespace ComputeCloudNode.ModelConfig

variable {V : Type}

/-- A JSON object. -/
abbrev ConfigDict (V : Type) := List (String × V)

/-- Python's conversions of a JSON value. -/
structure Conversions (V : Type) where
  int : V → Except String Int
  float : V → Except String V
  bool : V → Bool
  /-- `int(v * 2.667)`. -/
  widened : V → Except String Int

/-- The source's config fills in what the payload's config does not have. -/
def mergeConfig (config source : ConfigDict V) : ConfigDict V :=
  config ++ source.filter fun entry => (config.lookup entry.1).isNone

/-- What `_parse_config` returns, without the dtype, which nothing reads. `none`
stands for the default of a float. -/
structure LlamaConfig (V : Type) where
  vocabSize : Int
  hiddenSize : Int
  numHiddenLayers : Int
  numAttentionHeads : Int
  numKeyValueHeads : Int
  intermediateSize : Int
  rmsNormEps : Option V
  ropeTheta : Option V
  maxPositionEmbeddings : Int
  tieWordEmbeddings : Bool

/-- `int(c.get(key, default))`, where the default may be another key. -/
def getInt (conv : Conversions V) (c : ConfigDict V) (keys : List String) (default : Int) :
    Except String Int :=
  match keys.findSome? (fun key => c.lookup key) with
  | some v => conv.int v
  | none => .ok default

def getFloat (conv : Conversions V) (c : ConfigDict V) (keys : List String) : Except String (Option V) :=
  match keys.findSome? (fun key => c.lookup key) with
  | some v => (conv.float v).map some
  | none => .ok none

/-- `_parse_config`. -/
def parseConfig (conv : Conversions V) (c : ConfigDict V) : Except String (LlamaConfig V) := do
  let nHeads ← getInt conv c ["num_attention_heads", "n_head"] 32
  let vocabSize ← getInt conv c ["vocab_size"] 32000
  let hiddenSize ← getInt conv c ["hidden_size"] 4096
  let numHiddenLayers ← getInt conv c ["num_hidden_layers", "n_layer"] 32
  let numKeyValueHeads ← getInt conv c ["num_key_value_heads", "n_kv_heads"] nHeads
  -- The default is computed also when it is not used.
  let widened ← match c.lookup "hidden_size" with
    | some v => conv.widened v
    | none => .ok 10924
  let intermediateSize ← getInt conv c ["intermediate_size"] widened
  let rmsNormEps ← getFloat conv c ["rms_norm_eps", "layer_norm_eps"]
  let ropeTheta ← getFloat conv c ["rope_theta"]
  let maxPositionEmbeddings ← getInt conv c ["max_position_embeddings"] 2048
  let tieWordEmbeddings := match c.lookup "tie_word_embeddings" with
    | some v => conv.bool v
    | none => false
  return { vocabSize, hiddenSize, numHiddenLayers, numAttentionHeads := nHeads, numKeyValueHeads,
           intermediateSize, rmsNormEps, ropeTheta, maxPositionEmbeddings, tieWordEmbeddings }

/-- The parameters of `LlamaDecoderLayer`. -/
inductive LayerParam
  | inputLayernorm
  | qProj
  | kProj
  | vProj
  | oProj
  | postAttentionLayernorm
  | gateProj
  | upProj
  | downProj
  deriving DecidableEq

namespace LayerParam

/-- In the order of `state_dict`. -/
def all : List LayerParam :=
  [.inputLayernorm, .qProj, .kProj, .vProj, .oProj, .postAttentionLayernorm, .gateProj, .upProj, .downProj]

theorem mem_all (param : LayerParam) : param ∈ all := by
  cases param <;> decide

def suffix : LayerParam → String
  | .inputLayernorm => "input_layernorm.weight"
  | .qProj => "self_attn.q_proj.weight"
  | .kProj => "self_attn.k_proj.weight"
  | .vProj => "self_attn.v_proj.weight"
  | .oProj => "self_attn.o_proj.weight"
  | .postAttentionLayernorm => "post_attention_layernorm.weight"
  | .gateProj => "mlp.gate_proj.weight"
  | .upProj => "mlp.up_proj.weight"
  | .downProj => "mlp.down_proj.weight"

end LayerParam

/-- A parameter of a shard; layers are counted from the shard's first. -/
inductive Param
  | embedTokens
  | layer (index : Nat) (param : LayerParam)
  | norm
  | lmHead
  deriving DecidableEq

/-- The key of a parameter in the module's `state_dict`. -/
def Param.name : Param → String
  | .embedTokens => "embed_tokens.weight"
  | .layer index param => "layers." ++ toString index ++ "." ++ param.suffix
  | .norm => "norm.weight"
  | .lmHead => "lm_head.weight"

/-- What a shard is built for. -/
structure ShardSpec where
  startLayer : Int
  endLayer : Int
  isFirst : Bool
  isLast : Bool
  deriving DecidableEq

/-- `range(start_layer, end_layer)` is empty when it runs backwards. -/
def ShardSpec.layerCount (spec : ShardSpec) : Nat := (spec.endLayer - spec.startLayer).toNat

/-- The parameters `TorchShardModule.__init__` creates, in `state_dict` order. -/
def ownParams (spec : ShardSpec) (tied : Bool) : List Param :=
  (if spec.isFirst then [.embedTokens] else []) ++
    ((List.range spec.layerCount).flatMap fun index => LayerParam.all.map (.layer index)) ++
    if spec.isLast then .norm :: (if tied then [] else [.lmHead]) else []

variable {spec : ShardSpec} {tied : Bool}

@[simp] theorem embedTokens_mem : .embedTokens ∈ ownParams spec tied ↔ spec.isFirst := by
  unfold ownParams
  cases spec.isFirst <;> cases spec.isLast <;> cases tied <;> simp

@[simp] theorem layer_mem {index : Nat} {param : LayerParam} :
    .layer index param ∈ ownParams spec tied ↔ index < spec.layerCount := by
  have all := LayerParam.mem_all param
  unfold ownParams
  cases spec.isFirst <;> cases spec.isLast <;> cases tied <;> simp [all]

@[simp] theorem norm_mem : .norm ∈ ownParams spec tied ↔ spec.isLast := by
  unfold ownParams
  cases spec.isFirst <;> cases spec.isLast <;> cases tied <;> simp

@[simp] theorem lmHead_mem : .lmHead ∈ ownParams spec tied ↔ spec.isLast ∧ tied = false := by
  unfold ownParams
  cases spec.isFirst <;> cases spec.isLast <;> cases tied <;> simp

/-- The shape of a parameter. -/
def paramShape (cfg : LlamaConfig V) : Param → List Int
  | .embedTokens | .lmHead => [cfg.vocabSize, cfg.hiddenSize]
  | .norm => [cfg.hiddenSize]
  | .layer _ param =>
    let headDim := cfg.hiddenSize.fdiv cfg.numAttentionHeads
    match param with
    | .inputLayernorm | .postAttentionLayernorm => [cfg.hiddenSize]
    | .qProj => [cfg.numAttentionHeads * headDim, cfg.hiddenSize]
    | .kProj | .vProj => [cfg.numKeyValueHeads * headDim, cfg.hiddenSize]
    | .oProj => [cfg.hiddenSize, cfg.numAttentionHeads * headDim]
    | .gateProj | .upProj => [cfg.intermediateSize, cfg.hiddenSize]
    | .downProj => [cfg.hiddenSize, cfg.intermediateSize]

/-- `TorchShardModule.__init__` up to its random initial values: the parsed
config, if all parameters can be created. -/
def createModule (conv : Conversions V) (config : ConfigDict V) (spec : ShardSpec) :
    Except String (LlamaConfig V) := do
  let cfg ← parseConfig conv config
  if cfg.numAttentionHeads = 0 then throw "integer division or modulo by zero"
  if (ownParams spec cfg.tieWordEmbeddings).any fun param => (paramShape cfg param).any (· < 0) then
    throw "Trying to create tensor with negative dimension"
  return cfg

theorem createModule_eq_ok_iff {conv : Conversions V} {config : ConfigDict V} {cfg : LlamaConfig V} :
    createModule conv config spec = .ok cfg ↔
      parseConfig conv config = .ok cfg ∧ cfg.numAttentionHeads ≠ 0 ∧
        ∀ param ∈ ownParams spec cfg.tieWordEmbeddings, ∀ dim ∈ paramShape cfg param, 0 ≤ dim := by
  unfold createModule
  cases parsed : parseConfig conv config with
  | error text => simp [bind, Except.bind]
  | ok other =>
    simp only [bind, Except.bind, pure, Except.pure, throw, throwThe, MonadExceptOf.throw, Except.ok.injEq]
    constructor
    · intro created
      split at created
      next => cases created
      next some_ =>
        split at created
        next => cases created
        next fits =>
          cases created
          refine ⟨rfl, some_, fun param owned dim member => ?_⟩
          by_contra negative
          exact fits (List.any_eq_true.mpr ⟨param, owned, List.any_eq_true.mpr ⟨dim, member, by simpa using negative⟩⟩)
    · rintro ⟨rfl, some_, fits⟩
      rw [if_neg some_, if_neg]
      simp only [List.any_eq_true, decide_eq_true_eq, not_exists, not_and, Int.not_lt]
      exact fits

end ComputeCloudNode.ModelConfig
