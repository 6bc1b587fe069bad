import ComputeCloudNode.Lib.Fallible

/-! `llm/model_shard.py`: the forward pass of a layer range of a Llama model.
Tensors are lists along the sequence axis with a batch of one, in exact
arithmetic; what acts on one row or one head (projections, norms, MLP, rotary
embedding, the softmax-weighted sum) is a parameter. The index work is the
code's: where positions start, how heads are repeated, what is concatenated with
the cache and in which order, what the mask hides, and which cache entry a layer
is given. -/
namespace ComputeCloudNode.ModelShard

/-- The head counts of a config. `TorchShardModule` divides by both, and the
repetition gives `n_heads` heads only for a multiple of `n_kv`. -/
structure HeadLayout where
  nHeads : Nat
  nKv : Nat
  headsPositive : 0 < nHeads
  kvPositive : 0 < nKv
  divides : nKv ∣ nHeads

namespace HeadLayout

def rep (layout : HeadLayout) : Nat := layout.nHeads / layout.nKv

theorem rep_mul (layout : HeadLayout) : layout.rep * layout.nKv = layout.nHeads :=
  Nat.div_mul_cancel layout.divides

theorem repeated_lt (layout : HeadLayout) (head : Fin layout.nHeads) : head / layout.rep < layout.nKv := by
  apply Nat.div_lt_of_lt_mul
  rw [layout.rep_mul]
  exact head.isLt

/-- Without repetition there is a key/value head for every query head. -/
theorem single_lt (layout : HeadLayout) (single : ¬ 1 < layout.rep) (head : Fin layout.nHeads) :
    head < layout.nKv := by
  have below := layout.repeated_lt head
  have positive : 0 < layout.rep := Nat.div_pos (Nat.le_of_dvd layout.headsPositive layout.divides)
    layout.kvPositive
  have one : layout.rep = 1 := by omega
  rwa [one, Nat.div_one] at below

end HeadLayout

variable {Row Head Score Logits : Type} {layout : HeadLayout}

/-- `k.repeat_interleave(rep, dim=1)` if `rep > 1`, for one position. -/
def repeatHeads (layout : HeadLayout) (x : Fin layout.nKv → Head) : Fin layout.nHeads → Head :=
  if repeats : 1 < layout.rep then fun head => x ⟨head / layout.rep, layout.repeated_lt head⟩
  else fun head => x ⟨head, layout.single_lt repeats head⟩

/-- The cached keys and values of one layer, position by position, with the
heads already repeated. -/
structure Kv (layout : HeadLayout) (Head : Type) where
  k : List (Fin layout.nHeads → Head)
  v : List (Fin layout.nHeads → Head)
  aligned : k.length = v.length

namespace Kv

def empty : Kv layout Head := ⟨[], [], rfl⟩

/-- `past_kv[0].shape[2]`. -/
def length (kv : Kv layout Head) : Nat := kv.k.length

/-- `torch.cat` with the cache along the sequence axis. -/
def cat (past new : Kv layout Head) : Kv layout Head :=
  ⟨past.k ++ new.k, past.v ++ new.v, by rw [List.length_append, List.length_append, past.aligned, new.aligned]⟩

/-- The keys and values of a pass, after those of `past_kv` if there is one. -/
def extend (pastKv : Option (Kv layout Head)) (new : Kv layout Head) : Kv layout Head :=
  match pastKv with
  | none => new
  | some past => past.cat new

theorem extend_eq (pastKv : Option (Kv layout Head)) (new : Kv layout Head) :
    extend pastKv new = (pastKv.getD empty).cat new := by
  cases pastKv <;> rfl

theorem length_cat (past new : Kv layout Head) : (past.cat new).length = past.length + new.length :=
  List.length_append

end Kv

/-- The arithmetic of one head or of one pair of rows. -/
structure Kernels (Row Head Score : Type) where
  /-- `_apply_rope` with the cos/sin row of a position. -/
  rope : Head → Int → Head
  /-- `q · k / sqrt(head_dim)`. -/
  score : Head → Head → Score
  /-- Softmax of the scores that are not masked, times the values. -/
  attend : List (Score × Head) → Head
  add : Row → Row → Row

/-- `LlamaAttention`. -/
structure LlamaAttention (layout : HeadLayout) (Row Head : Type) where
  qProj : Row → Fin layout.nHeads → Head
  kProj : Row → Fin layout.nKv → Head
  vProj : Row → Fin layout.nKv → Head
  oProj : (Fin layout.nHeads → Head) → Row

/-- `LlamaDecoderLayer`. -/
structure LlamaDecoderLayer (layout : HeadLayout) (Row Head : Type) where
  inputLayernorm : Row → Row
  selfAttn : LlamaAttention layout Row Head
  postAttentionLayernorm : Row → Row
  mlp : Row → Row

/-- `torch.arange(position_offset, position_offset + seq_len)`, the positions of
the rows of `_compute_rope_cos_sin`. -/
def ropePositions (seqLen : Nat) (positionOffset : Int) : List Int :=
  (List.range seqLen).map fun (index : Nat) => positionOffset + (index : Int)

theorem ropePositions_length (seqLen : Nat) (positionOffset : Int) :
    (ropePositions seqLen positionOffset).length = seqLen := by
  rw [ropePositions, List.length_map, List.length_range]

/-- `torch.triu(ones(S, total), diagonal=past_len + 1)`: query `i` does not see
key `j`. -/
def causalMask (pastLen i j : Nat) : Bool := i + (pastLen + 1) ≤ j

/-- The keys and values that query `i` of this pass sees, in key order. -/
def visible (pastLen : Nat) (kv : Kv layout Head) (i : Nat) :
    List ((Fin layout.nHeads → Head) × (Fin layout.nHeads → Head)) :=
  (((kv.k.zip kv.v).zipIdx.filter fun entry => !causalMask pastLen i entry.2)).map Prod.fst

/-- One head at a time, the score-weighted values a query sees. -/
def attendRow (kernels : Kernels Row Head Score) (query : Fin layout.nHeads → Head)
    (seen : List ((Fin layout.nHeads → Head) × (Fin layout.nHeads → Head))) : Fin layout.nHeads → Head :=
  fun head => kernels.attend (seen.map fun (k, v) => (kernels.score (query head) (k head), v head))

namespace LlamaAttention

variable (kernels : Kernels Row Head Score) (attn : LlamaAttention layout Row Head)

def query (x : Row) (position : Int) : Fin layout.nHeads → Head :=
  fun head => kernels.rope (attn.qProj x head) position

def key (x : Row) (position : Int) : Fin layout.nHeads → Head :=
  repeatHeads layout fun head => kernels.rope (attn.kProj x head) position

def value (x : Row) : Fin layout.nHeads → Head := repeatHeads layout (attn.vProj x)

/-- What a pass appends to the cache. -/
def newKv (rows : List (Row × Int)) : Kv layout Head :=
  ⟨rows.map fun (x, position) => attn.key kernels x position, rows.map fun (x, _) => attn.value x,
    by rw [List.length_map, List.length_map]⟩

/-- `LlamaAttention.forward`. -/
def forward (xs : List Row) (positions : List Int) (pastKv : Option (Kv layout Head)) :
    Except String (List Row × Kv layout Head) :=
  let rows := xs.zip positions
  let q := rows.map fun (x, position) => attn.query kernels x position
  let kv := Kv.extend pastKv (attn.newKv kernels rows)
  let pastLen := kv.length - xs.length
  -- The final `view(B, S, -1)` cannot infer its last dimension.
  if xs.isEmpty then .error "cannot reshape tensor of 0 elements into shape [1, 0, -1]"
  else .ok (q.mapIdx fun i query => attn.oProj (attendRow kernels query (visible pastLen kv i)), kv)

end LlamaAttention

/-- `LlamaDecoderLayer.forward`. -/
def LlamaDecoderLayer.forward (kernels : Kernels Row Head Score) (layer : LlamaDecoderLayer layout Row Head)
    (xs : List Row) (positions : List Int) (pastKv : Option (Kv layout Head)) :
    Except String (List Row × Kv layout Head) := do
  let (h, newKv) ← layer.selfAttn.forward kernels (xs.map layer.inputLayernorm) positions pastKv
  let xs := List.zipWith kernels.add xs h
  let h := xs.map fun x => layer.mlp (layer.postAttentionLayernorm x)
  return (List.zipWith kernels.add xs h, newKv)

theorem LlamaAttention.forward_eq_ok {kernels : Kernels Row Head Score} {attn : LlamaAttention layout Row Head}
    {xs h : List Row} {positions : List Int} {pastKv : Option (Kv layout Head)} {newKv : Kv layout Head}
    (ran : attn.forward kernels xs positions pastKv = .ok (h, newKv)) :
    h.length = (xs.zip positions).length ∧ newKv = Kv.extend pastKv (attn.newKv kernels (xs.zip positions)) := by
  unfold LlamaAttention.forward at ran
  dsimp only at ran
  split at ran
  next => cases ran
  next =>
    cases ran
    exact ⟨by rw [List.length_mapIdx, List.length_map], rfl⟩

/-- The residual additions keep the sequence length, and the returned keys and
values are the cached ones and one for every row. -/
theorem LlamaDecoderLayer.forward_lengths {kernels : Kernels Row Head Score}
    {layer : LlamaDecoderLayer layout Row Head} {xs ys : List Row} {positions : List Int}
    {pastKv : Option (Kv layout Head)} {newKv : Kv layout Head} (sized : positions.length = xs.length)
    (ran : layer.forward kernels xs positions pastKv = .ok (ys, newKv)) :
    ys.length = xs.length ∧ newKv.length = (pastKv.map Kv.length).getD 0 + xs.length := by
  simp only [LlamaDecoderLayer.forward, Fallible.bind_eq_ok_iff, Fallible.pure_eq_ok_iff, Prod.exists,
    Prod.mk.injEq] at ran
  obtain ⟨h, kv, attended, rfl, rfl⟩ := ran
  obtain ⟨answered, rfl⟩ := LlamaAttention.forward_eq_ok attended
  rw [List.length_zip, List.length_map, sized, Nat.min_self] at answered
  refine ⟨by simp [answered], ?_⟩
  cases pastKv <;> simp [Kv.extend, Kv.cat, Kv.length, LlamaAttention.newKv, sized]

/-- A layer as `TorchShardModule` calls it: the rows, the positions behind the
cos/sin tables and the layer's own part of the cache. -/
abbrev LayerForward (Row Cache : Type) := List Row → List Int → Option Cache → Except String (List Row × Cache)

/-- One position of an input or an output. -/
inductive Item (Row Logits : Type)
  | token (id : Int)
  | hidden (row : Row)
  | logits (row : Logits)
  deriving DecidableEq

/-- The end of a last shard. -/
structure OutputHead (Row Logits : Type) where
  norm : Row → Row
  /-- Created only without `tie_word_embeddings`. -/
  lmHead : Option (Row → Logits)

/-- `TorchShardModule`. It owns `embed_tokens` exactly when it is first and the
norm exactly when it is last. -/
structure TorchShardModule (Row Cache Logits : Type) where
  embedTokens : Option (Int → Except String Row)
  layers : List (LayerForward Row Cache)
  head : Option (OutputHead Row Logits)

namespace TorchShardModule

variable {Cache : Type} (shard : TorchShardModule Row Cache Logits)

/-- `embed_tokens` of a first shard. A first shard is given token ids and every
other shard hidden states. -/
def embed : Item Row Logits → Except String Row
  | .token id =>
    match shard.embedTokens with
    | some table => table id
    | none => .error "not hidden states"
  | .hidden row => if shard.embedTokens.isSome then .error "not token ids" else .ok row
  | .logits _ => .error "not hidden states"

/-- `past_key_values[li] if has_cache and past_key_values else None`. -/
def pastKv (hasCache : Bool) (pastKeyValues : Option (List Cache)) (li : Nat) :
    Except String (Option Cache) :=
  match pastKeyValues with
  | some (past :: pasts) =>
    if hasCache then
      match (past :: pasts)[li]? with
      | some kv => .ok (some kv)
      | none => .error "list index out of range"
    else .ok none
  | _ => .ok none

/-- The loop over `enumerate(self._module.layers)`, from layer `li` on. -/
def runLayers (positions : List Int) (pastOf : Nat → Except String (Option Cache)) :
    Nat → List (LayerForward Row Cache) → List Row → Except String (List Row × List Cache)
  | _, [], xs => .ok (xs, [])
  | li, layer :: layers, xs => do
    let past ← pastOf li
    let (ys, newKv) ← layer xs positions past
    let (out, newKvs) ← runLayers positions pastOf (li + 1) layers ys
    return (out, newKv :: newKvs)

/-- The norm and `lm_head` of a last shard. With tied embeddings the code calls
`embed_tokens` on the normed rows, which no shard supports: it is missing, or it
takes integers. -/
def finish (xs : List Row) : Except String (List (Item Row Logits)) :=
  match shard.head with
  | none => .ok (xs.map .hidden)
  | some head =>
    match head.lmHead with
    | some lmHead => .ok (xs.map fun x => .logits (lmHead (head.norm x)))
    | none =>
      if shard.embedTokens.isSome then
        .error "Expected tensor for argument #1 'indices' to have one of the following scalar types: Long, Int"
      else .error "'Module' object has no attribute 'embed_tokens'"

/-- `tie_word_embeddings` is false. -/
def Untied (head : Option (OutputHead Row Logits)) : Prop := ∀ end_ ∈ head, end_.lmHead.isSome

/-- The output of an untied shard for one row. -/
def finishRow (head : Option (OutputHead Row Logits)) (x : Row) : Item Row Logits :=
  match head with
  | some ⟨norm, some lmHead⟩ => .logits (lmHead (norm x))
  | _ => .hidden x

theorem finish_untied (untied : Untied shard.head) (xs : List Row) :
    shard.finish xs = .ok (xs.map (finishRow shard.head)) := by
  unfold finish
  cases ends : shard.head with
  | none => rfl
  | some end_ =>
    obtain ⟨norm, lmHead⟩ := end_
    cases lmHead with
    | some lmHead => rfl
    | none => cases untied _ ends

/-- `TorchShardModule.forward`. The cache is returned only with `use_cache`. -/
def forward (input : List (Item Row Logits)) (pastKeyValues : Option (List Cache))
    (positionOffset : Int) (useCache : Option Bool) :
    Except String (List (Item Row Logits) × Option (List Cache)) := do
  let hasCache := useCache.getD false
  if pastKeyValues.isSome && !hasCache then
    throw "pass use_cache=True to use a KV cache"
  let x ← input.mapM shard.embed
  let positions := ropePositions x.length positionOffset
  let (x, newKvs) ← runLayers positions (pastKv hasCache pastKeyValues) 0 shard.layers x
  let output ← shard.finish x
  return (output, if hasCache then some newKvs else none)

/-- Feed a sequence pass by pass, each with the cache the pass before returned. -/
def forwardPasses (shard : TorchShardModule Row Cache Logits) :
    Option (List Cache) → Nat → List (List (Item Row Logits)) →
      Except String (List (Item Row Logits) × Option (List Cache))
  | past, _, [] => .ok ([], past)
  | past, offset, chunk :: chunks => do
    let (output, kvs) ← shard.forward chunk past offset (some true)
    let (outputs, last) ← forwardPasses shard kvs (offset + chunk.length) chunks
    return (output ++ outputs, last)

end TorchShardModule

/-- The shard of a Llama model with these layers. -/
def llamaShard (kernels : Kernels Row Head Score) (embedTokens : Option (Int → Except String Row))
    (layers : List (LlamaDecoderLayer layout Row Head)) (head : Option (OutputHead Row Logits)) :
    TorchShardModule Row (Kv layout Head) Logits :=
  { embedTokens := embedTokens, layers := layers.map fun layer => layer.forward kernels, head := head }

end ComputeCloudNode.ModelShard
