import ComputeCloudNode.Lib.Decimal
import ComputeCloudNode.Llm.ModelConfig
import ComputeCloudNode.Llm.ModelShard

/-! `llm/weights.py` and `TorchShardModule.load_state_dict`: which keys of a
checkpoint a shard loads, and onto which of its parameters. -/
namespace ComputeCloudNode.Weights
open ModelConfig ModelShard

/-- A match of `^model\.layers\.(\d+)\.`: the number and what follows. -/
def layerKey (key : String) : Option (Nat × List Char) :=
  ("model.layers.".toList.isPrefixOf? key.toList).bind Decimal.numberDot

/-- `keys_for_shard`. -/
def keysForShard (allKeys : List String) (spec : ShardSpec) : List String :=
  allKeys.flatMap fun key =>
    match layerKey key with
    | some (index, _) => if spec.startLayer ≤ index ∧ index < spec.endLayer then [key] else []
    | none =>
      (if spec.isFirst ∧ key = "model.embed_tokens.weight" then [key] else []) ++
        if spec.isLast ∧ key ∈ ["model.norm.weight", "lm_head.weight", "model.lm_head.weight"] then [key] else []

/-- A weights source: the keys of a checkpoint and the tensors behind them. -/
structure WeightsSource (Tensor : Type) where
  listKeys : Except String (List String)
  getTensor : String → Except String Tensor

variable {Tensor : Type}

/-- `ShardWeightsLoader.load_shard`. -/
def loadShard (source : WeightsSource Tensor) (spec : ShardSpec) : Except String (List (String × Tensor)) := do
  let allKeys ← source.listKeys
  (keysForShard allKeys spec).mapM fun key => do
    let tensor ← source.getTensor key
    return (key, tensor)

/-- `(.+)$` of a text: a dot matches no newline, and `$` also matches before a
final one. -/
def restOfLine (cs : List Char) : Option (List Char) :=
  match cs.takeWhile (· != '\n'), cs.dropWhile (· != '\n') with
  | c :: line, [] => some (c :: line)
  | c :: line, ['\n'] => some (c :: line)
  | _, _ => none

/-- `key[6:] if key.startswith("model.") else key`. -/
def stripModel (key : List Char) : List Char :=
  match "model.".toList.isPrefixOf? key with
  | some rest => rest
  | none => key

/-- A match of `^layers\.(\d+)\.(.+)$`: both groups. -/
def layersKey (lk : List Char) : Option (Nat × List Char) :=
  (("layers.".toList.isPrefixOf? lk).bind Decimal.numberDot).bind fun (index, rest) =>
    (restOfLine rest).map fun line => (index, line)

/-- The key of `load_state_dict` after both renamings, unless it is skipped. -/
def remap (spec : ShardSpec) (key : String) : Option String :=
  let lk := stripModel key.toList
  match layersKey lk with
  | some (origIdx, rest) =>
    let localIdx : Int := origIdx - spec.startLayer
    if 0 ≤ localIdx ∧ localIdx < spec.endLayer - spec.startLayer then
      some ("layers." ++ toString localIdx.toNat ++ "." ++ String.ofList rest)
    else none
  | none => some (String.ofList lk)

/-- The parameter a key is copied onto, if any. -/
def target (spec : ShardSpec) (tied : Bool) (key : String) : Option Param :=
  (remap spec key).bind fun lk => (ownParams spec tied).find? fun param => param.name = lk

/-- The values of a module's parameters. -/
abbrev Params (Tensor : Type) := Param → Tensor

def Params.copy (params : Params Tensor) (param : Param) (tensor : Tensor) : Params Tensor :=
  fun other => if other = param then tensor else params other

/-- `load_state_dict`: the values after the copies and the parameters that were
copied onto. -/
def loadStateDict (spec : ShardSpec) (tied : Bool) (expected : Param → List Int) (shape : Tensor → List Int) :
    Params Tensor → List (String × Tensor) → Except String (Params Tensor × List Param)
  | params, [] => .ok (params, [])
  | params, (key, val) :: rest =>
    match target spec tied key with
    | none => loadStateDict spec tied expected shape params rest
    | some param =>
      if shape val = expected param then do
        let (params, loaded) ← loadStateDict spec tied expected shape (params.copy param val) rest
        return (params, param :: loaded)
      else .error ("shape mismatch for " ++ key)

/-- What the arithmetic does with the parameters. Layers keep the sequence
length, as the residual additions of `LlamaDecoderLayer` do. -/
structure Semantics (V Tensor Row Cache Logits : Type) where
  shape : Tensor → List Int
  embed : Tensor → Int → Except String Row
  layer : LlamaConfig V → (LayerParam → Tensor) → LayerForward Row Cache
  norm : LlamaConfig V → Tensor → Row → Row
  lmHead : Tensor → Row → Logits
  layer_length : ∀ {cfg params xs positions past ys kv}, positions.length = xs.length →
    layer cfg params xs positions past = .ok (ys, kv) → ys.length = xs.length

variable {V Row Cache Logits : Type}

/-- A shard with its weights. -/
structure LoadedModule (V Tensor : Type) where
  cfg : LlamaConfig V
  spec : ShardSpec
  params : Params Tensor
  /-- The parameters that `load_state_dict` copied onto. -/
  loaded : List Param

namespace LoadedModule

def own (loadedModule : LoadedModule V Tensor) : List Param :=
  ownParams loadedModule.spec loadedModule.cfg.tieWordEmbeddings

/-- The forward pass with these weights. -/
def shard (sem : Semantics V Tensor Row Cache Logits) (loadedModule : LoadedModule V Tensor) :
    TorchShardModule Row Cache Logits where
  embedTokens := if loadedModule.spec.isFirst then some (sem.embed (loadedModule.params .embedTokens)) else none
  layers := (List.range loadedModule.spec.layerCount).map fun index =>
    sem.layer loadedModule.cfg fun param => loadedModule.params (.layer index param)
  head :=
    if loadedModule.spec.isLast then
      some {
        norm := sem.norm loadedModule.cfg (loadedModule.params .norm)
        lmHead :=
          if loadedModule.cfg.tieWordEmbeddings then none else some (sem.lmHead (loadedModule.params .lmHead)) }
    else none

end LoadedModule

/-- Load the weights of a shard, create the module with some initial values and
copy the weights into it, as `_run_shard` does. -/
def loadModule (sem : Semantics V Tensor Row Cache Logits) (conv : Conversions V) (source : WeightsSource Tensor)
    (config : ConfigDict V) (spec : ShardSpec) (initial : Params Tensor) :
    Except String (LoadedModule V Tensor) := do
  let stateDict ← loadShard source spec
  let cfg ← createModule conv config spec
  let (params, loaded) ← loadStateDict spec cfg.tieWordEmbeddings (paramShape cfg) sem.shape initial stateDict
  return { cfg, spec, params, loaded }

end ComputeCloudNode.Weights
