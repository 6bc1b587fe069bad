import ComputeCloudNode.Lib.Resumable
import ComputeCloudNode.Llm.CachedPasses
import ComputeCloudNode.Llm.ShardedForward

/-! The shards of a Llama model as stages of one machine. A shard decodes position by
position from the caches of its layers, so it may be fed in pieces, and the stages of a
partition, one after the other, decode what the single module decodes. -/
namespace ComputeCloudNode.LLMShardExecutor
open ModelConfig ModelShard Weights TorchShardModule

/-- The arithmetic of a Llama model: its layers are `LlamaDecoderLayer`s. -/
structure LlamaArithmetic (V Tensor Row Head Score Logits : Type) (layout : HeadLayout) where
  shape : Tensor → List Int
  embed : Tensor → Int → Except String Row
  kernels : LlamaConfig V → Kernels Row Head Score
  decoder : LlamaConfig V → (LayerParam → Tensor) → LlamaDecoderLayer layout Row Head
  norm : LlamaConfig V → Tensor → Row → Row
  lmHead : Tensor → Row → Logits
  argmax : Item Row Logits → Int
  validate : List (Item Row Logits) → Except String Unit

variable {V Tensor Row Head Score Logits : Type} {layout : HeadLayout}

/-- What `_prepare_and_run` computes with. -/
def LlamaArithmetic.semantics (model : LlamaArithmetic V Tensor Row Head Score Logits layout) :
    CachedSemantics V Tensor Row (Kv layout Head) Logits where
  shape := model.shape
  embed := model.embed
  layer cfg params := (model.decoder cfg params).forward (model.kernels cfg)
  norm := model.norm
  lmHead := model.lmHead
  cacheLength := Kv.length
  argmax := model.argmax
  validate := model.validate
  layer_length sized ran := (LlamaDecoderLayer.forward_lengths sized ran).1
  cache_grows sized ran := (LlamaDecoderLayer.forward_lengths sized ran).2

/-! ### One shard -/

section Stage

variable (kernels : Kernels Row Head Score) (embedTokens : Option (Int → Except String Row))
  (layers : List (LlamaDecoderLayer layout Row Head)) (head : Option (OutputHead Row Logits))

theorem decode_length {states kvs : List (Kv layout Head)} {items output : List (Item Row Logits)}
    (decoded : decode kernels embedTokens layers head states items = .ok (output, kvs)) :
    output.length = items.length := by
  unfold ModelShard.decode at decoded
  cases embedded : items.mapM (llamaShard kernels embedTokens layers head).embed with
  | error text =>
    rw [embedded] at decoded
    cases decoded
  | ok rows =>
    rw [embedded] at decoded
    cases decoded
    rw [List.length_map, Mealy.layered_length, Fallible.mapM_length embedded]

/-- Decoding from the caches of the layers. -/
def decodeStage : Resumable (List (Kv layout Head)) (Item Row Logits) (Item Row Logits) where
  run states items := (decode kernels embedTokens layers head states items).toOption
  Valid states := ∃ size, Coherent layers size states
  run_nil := by
    rintro states ⟨size, coherent⟩
    rw [decode_nil coherent.entries]
    rfl
  run_append := by
    rintro states _ xs ys
    rw [decode_append]
    cases decode kernels embedTokens layers head states xs with
    | error text => rfl
    | ok read =>
      simp only [Except.bind, Except.toOption, Option.bind_some]
      cases decode kernels embedTokens layers head read.2 ys <;> rfl
  valid_run := by
    rintro states xs output kvs ⟨size, coherent⟩ ran
    exact ⟨_, coherent.decode (Fallible.toOption_eq_some_iff.mp ran)⟩
  length_run _ ran := decode_length kernels embedTokens layers head (Fallible.toOption_eq_some_iff.mp ran)

end Stage

section Model

variable (model : LlamaArithmetic V Tensor Row Head Score Logits layout) (cfg : LlamaConfig V)
  (whole : Params Tensor) (start stop : Nat) (isFirst isLast : Bool)

/-- The layers from `start` to `stop` of the whole model. -/
def LlamaArithmetic.decoders : List (LlamaDecoderLayer layout Row Head) :=
  (List.range' start (stop - start)).map fun index => model.decoder cfg fun param => whole (.layer index param)

/-- The embedding that only the first shard owns. -/
def LlamaArithmetic.table : Option (Int → Except String Row) :=
  if isFirst then some (model.embed (whole .embedTokens)) else none

/-- The norm and `lm_head` that only the last shard owns. -/
def LlamaArithmetic.outputHead : Option (OutputHead Row Logits) :=
  if isLast then some ⟨model.norm cfg (whole .norm), some (model.lmHead (whole .lmHead))⟩ else none

/-- The shard of these layers. -/
def LlamaArithmetic.stage : Resumable (List (Kv layout Head)) (Item Row Logits) (Item Row Logits) :=
  decodeStage (model.kernels cfg) (model.table whole isFirst) (model.decoders cfg whole start stop)
    (model.outputHead cfg whole isLast)

/-- The caches before the first pass. -/
def LlamaArithmetic.fresh : List (Kv layout Head) := freshKv (model.decoders cfg whole start stop)

variable {model cfg whole start stop isFirst isLast} {items : List (Item Row Logits)}

theorem piece_eq_llamaShard : piece model.semantics.toSemantics cfg whole start stop isFirst isLast =
    llamaShard (model.kernels cfg) (model.table whole isFirst) (model.decoders cfg whole start stop)
      (model.outputHead cfg whole isLast) := by
  simp only [piece, llamaShard, LlamaArithmetic.decoders, List.map_map]
  rfl

variable (model cfg whole isLast) in
theorem outputHead_untied : Untied (model.outputHead cfg whole isLast) := by
  have untied : Untied (piece model.semantics.toSemantics cfg whole 0 0 false isLast).head := piece_untied
  exact untied

theorem fresh_valid : (model.stage cfg whole start stop isFirst isLast).Valid (model.fresh cfg whole start stop) :=
  ⟨0, fresh_coherent _⟩

/-- The caches that a pass is given are as long as `_prepare_and_run` reads off the first of them. -/
theorem coherent_pastLength {states : List (Kv layout Head)}
    (valid : (model.stage cfg whole start stop isFirst isLast).Valid states) :
    Coherent (model.decoders cfg whole start stop) (pastLength model.semantics (some states)) states := by
  obtain ⟨size, coherent⟩ := valid
  refine ⟨coherent.entries, fun kv member => ?_⟩
  cases states with
  | nil => cases member
  | cons first rest =>
    have length : pastLength model.semantics (some (first :: rest)) = size := coherent.sized first List.mem_cons_self
    rw [length]
    exact coherent.sized kv member

/-- A pass of a shard is a piece of the stage, fed from the caches of the passes before it. -/
theorem forward_cached_stage (some_ : items ≠ []) (past : Option (List (Kv layout Head)))
    (valid : (model.stage cfg whole start stop isFirst isLast).Valid (past.getD (model.fresh cfg whole start stop))) :
    ((piece model.semantics.toSemantics cfg whole start stop isFirst isLast).forward items past
        (pastLength model.semantics past) (some true)).toOption =
      ((model.stage cfg whole start stop isFirst isLast).run (past.getD (model.fresh cfg whole start stop)) items).map
        fun read => (read.1, some read.2) := by
  rw [piece_eq_llamaShard]
  cases past with
  | none =>
    have offset : ((pastLength model.semantics none : Nat) : Int) = (0 : Nat) := rfl
    rw [offset, forward_eq_decode (model.kernels cfg) (model.table whole isFirst)
      (outputHead_untied model cfg whole isLast) some_ none (some true) rfl (fresh_coherent _).entries (pastKv_none true)]
    exact Fallible.toOption_map
  | some states =>
    have coherent := coherent_pastLength valid
    rw [Option.getD_some] at coherent
    rw [forward_eq_decode (model.kernels cfg) (model.table whole isFirst)
      (outputHead_untied model cfg whole isLast) some_ (some states) (some true) rfl coherent.entries (pastKv_some coherent)]
    exact Fallible.toOption_map

variable (model cfg whole start stop isFirst isLast) in
theorem forward_plain_stage (some_ : items ≠ []) :
    (((piece model.semantics.toSemantics cfg whole start stop isFirst isLast).forward items none 0 none).map
        Prod.fst).toOption =
      ((model.stage cfg whole start stop isFirst isLast).run (model.fresh cfg whole start stop) items).map Prod.fst := by
  have passed := forward_eq_decode (model.kernels cfg) (model.table whole isFirst)
    (outputHead_untied model cfg whole isLast) some_ none none rfl (fresh_coherent (model.decoders cfg whole start stop)).entries
    (pastKv_none false)
  rw [Int.natCast_zero] at passed
  rw [piece_eq_llamaShard, passed, Fallible.toOption_map, Fallible.toOption_map, Option.map_map]
  rfl

/-- Every shard but the last one answers hidden states. -/
theorem stage_hidden {states kvs : List (Kv layout Head)} {output : List (Item Row Logits)}
    (ran : (model.stage cfg whole start stop isFirst false).run states items = some (output, kvs)) :
    ∃ rows : List Row, output = rows.map .hidden := by
  have decoded := Fallible.toOption_eq_some_iff.mp ran
  unfold ModelShard.decode at decoded
  cases embedded : items.mapM (llamaShard (model.kernels cfg) (model.table whole isFirst)
      (model.decoders cfg whole start stop) (model.outputHead cfg whole false)).embed with
  | error text =>
    rw [embedded] at decoded
    cases decoded
  | ok rows =>
    rw [embedded] at decoded
    cases decoded
    exact ⟨_, rfl⟩

end Model

/-! ### The shards of a partition -/

section Partition

variable (model : LlamaArithmetic V Tensor Row Head Score Logits layout) (cfg : LlamaConfig V)
  (whole : Params Tensor) (N : Nat) (b : Nat → Nat)

def LlamaArithmetic.stageAt (i : Nat) : Resumable (List (Kv layout Head)) (Item Row Logits) (Item Row Logits) :=
  model.stage cfg whole (b i) (b (i + 1)) (i = 0) (i + 1 = N)

def LlamaArithmetic.freshAt (i : Nat) : List (Kv layout Head) := model.fresh cfg whole (b i) (b (i + 1))

def LlamaArithmetic.stages : List (Resumable (List (Kv layout Head)) (Item Row Logits) (Item Row Logits)) :=
  (List.range N).map (model.stageAt cfg whole N b)

def LlamaArithmetic.freshStates : List (List (Kv layout Head)) := (List.range N).map (model.freshAt cfg whole b)

/-- Each shard decodes what the one before it answers. -/
def LlamaArithmetic.pipeline :
    Resumable (List (List (Kv layout Head))) (Item Row Logits) (Item Row Logits) :=
  Resumable.chain (model.stages cfg whole N b)

variable {model cfg whole N b} {items : List (Item Row Logits)}

variable (model cfg whole b) in
theorem stages_get {i : Nat} (below : i < N) :
    (model.stages cfg whole N b)[i]? = some (model.stageAt cfg whole N b i) := by
  rw [LlamaArithmetic.stages, List.getElem?_map, List.getElem?_range below]
  rfl

theorem freshStates_get {i : Nat} (below : i < N) :
    (model.freshStates cfg whole N b)[i]? = some (model.freshAt cfg whole b i) := by
  rw [LlamaArithmetic.freshStates, List.getElem?_map, List.getElem?_range below]
  rfl

variable (model cfg whole N b) in
theorem stages_valid : List.Forall₂ (fun stage state => stage.Valid state) (model.stages cfg whole N b)
    (model.freshStates cfg whole N b) := by
  rw [LlamaArithmetic.stages, LlamaArithmetic.freshStates, List.forall₂_map_left_iff, List.forall₂_map_right_iff,
    List.forall₂_same]
  exact fun i _ => fresh_valid

theorem pipeline_valid : (model.pipeline cfg whole N b).Valid (model.freshStates cfg whole N b) :=
  Resumable.chain_valid.mpr (stages_valid ..)

variable (model cfg whole N b) in
/-- The first `n` stages decode what their shards compute one after the other. -/
theorem first_stages_eq (some_ : items ≠ []) {n : Nat} (upper : n ≤ N) :
    ((Resumable.chain ((model.stages cfg whole N b).take n)).run ((model.freshStates cfg whole N b).take n) items).map
        Prod.fst =
      ((List.range n).foldlM (fun items i =>
        ((piece model.semantics.toSemantics cfg whole (b i) (b (i + 1)) (i = 0) (i + 1 = N)).forward items none 0
          none).map Prod.fst) items).toOption := by
  induction n with
  | zero => rfl
  | succ n ih =>
    have before := ih (by omega)
    have valid := Resumable.chain_valid.mpr (List.forall₂_take n (stages_valid model cfg whole N b))
    rw [Resumable.chain_take_succ (stages_get model cfg whole b (by omega)) (freshStates_get (by omega)), List.range_succ,
      List.foldlM_append]
    generalize List.foldlM (m := Except String) _ items (List.range n) = folded at before ⊢
    cases ran : (Resumable.chain ((model.stages cfg whole N b).take n)).run ((model.freshStates cfg whole N b).take n)
        items with
    | none =>
      rw [ran, Option.map_none] at before
      obtain ⟨text, failed⟩ := Fallible.toOption_eq_none_iff.mp before.symm
      rw [failed]
      rfl
    | some read =>
      rw [ran, Option.map_some] at before
      have answered : read.1 ≠ [] := by
        intro none_
        have length := Resumable.length_run _ valid ran
        rw [none_] at length
        exact some_ (List.eq_nil_of_length_eq_zero length.symm)
      have here := forward_plain_stage model cfg whole (b n) (b (n + 1)) (n = 0) (n + 1 = N) answered
      rw [Fallible.toOption_eq_some_iff.mp before.symm]
      simp only [Option.bind_some, Option.map_map, List.foldlM_cons, List.foldlM_nil, bind_pure]
      exact here.symm

variable (model cfg whole) in
/-- The stages of a partition decode what the single module computes. -/
theorem pipeline_eq_single (positive : 1 ≤ N) (first : b 0 = 0) (ordered : ∀ i < N, b i ≤ b (i + 1))
    (some_ : items ≠ []) :
    ((model.pipeline cfg whole N b).run (model.freshStates cfg whole N b) items).map Prod.fst =
      (((piece model.semantics.toSemantics cfg whole 0 (b N) true true).forward items none 0 none).map
        Prod.fst).toOption := by
  have all := first_stages_eq model cfg whole N b some_ (Nat.le_refl N)
  have stages : (model.stages cfg whole N b).length = N := by
    rw [LlamaArithmetic.stages, List.length_map, List.length_range]
  have states : (model.freshStates cfg whole N b).length = N := by
    rw [LlamaArithmetic.freshStates, List.length_map, List.length_range]
  have pieces := pieces_run cfg model.semantics.toSemantics whole first ordered items positive (Nat.le_refl N)
  rw [decide_eq_true rfl] at pieces
  rw [List.take_of_length_le (Nat.le_of_eq stages), List.take_of_length_le (Nat.le_of_eq states), pieces] at all
  exact all

end Partition

/-! ### The greedy loop -/

section Greedy

variable {Cache : Type}

/-- The loop of a single module without a cache: all tokens are fed again for every new
one. -/
def greedy (argmax : Item Row Logits → Int) (single : TorchShardModule Row Cache Logits) :
    Nat → List Int → Except String (List Int)
  | 0, _ => .ok []
  | n + 1, cur => do
    let (out, _) ← single.forward (cur.map .token) none 0 none
    match out.getLast? with
    | none => .error "index -1 is out of bounds for dimension 1 with size 0"
    | some last => do
      let rest ← greedy argmax single n (cur ++ [argmax last])
      return argmax last :: rest

variable {model : LlamaArithmetic V Tensor Row Head Score Logits layout} {cfg : LlamaConfig V}
  {whole : Params Tensor} {N : Nat} {b : Nat → Nat}

variable (model cfg whole) in
/-- The stages that start over pick the tokens of the single module's loop. -/
theorem recompute_eq_greedy (positive : 1 ≤ N) (first : b 0 = 0) (ordered : ∀ i < N, b i ≤ b (i + 1)) (n : Nat)
    {cur : List Int} (some_ : cur ≠ []) :
    (model.pipeline cfg whole N b).recompute model.argmax .token (model.freshStates cfg whole N b) n
        (cur.map .token) =
      (greedy model.argmax (piece model.semantics.toSemantics cfg whole 0 (b N) true true) n cur).toOption := by
  induction n generalizing cur with
  | zero => rfl
  | succ n ih =>
    have fed : (cur.map .token : List (Item Row Logits)) ≠ [] := by simpa using some_
    have single := pipeline_eq_single model cfg whole positive first ordered fed
    rw [Resumable.recompute, greedy]
    cases ran : (piece model.semantics.toSemantics cfg whole 0 (b N) true true).forward (cur.map .token) none 0 none with
    | error text =>
      rw [ran] at single
      rw [Option.map_eq_none_iff.mp single]
      rfl
    | ok answer =>
      rw [ran] at single
      obtain ⟨read, decoded, same⟩ := Option.map_eq_some_iff.mp single
      rw [decoded, Option.bind_some, same]
      simp only [bind, Except.bind, pure, Except.pure]
      cases answer.1.getLast? with
      | none => rfl
      | some last =>
        have rest := @ih (cur ++ [model.argmax last]) (by simp)
        rw [List.map_append, List.map_singleton] at rest
        simp only [Option.map_some, Option.bind_some, rest]
        cases greedy model.argmax (piece model.semantics.toSemantics cfg whole 0 (b N) true true) n
          (cur ++ [model.argmax last]) <;> rfl

end Greedy

end ComputeCloudNode.LLMShardExecutor
