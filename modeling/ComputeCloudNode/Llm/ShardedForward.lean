import ComputeCloudNode.Llm.IncrementalForward
import ComputeCloudNode.Llm.LoadedParams

/-! Sharding changes nothing. A shard that starts at layer `b` loads onto its
`j`-th layer exactly what the whole model loads onto layer `b + j`, so the shards
of a partition, run one after the other, are the layers of the whole model in
order. -/
namespace ComputeCloudNode.Weights
open ModelConfig ModelShard TorchShardModule

variable {V Tensor Row Cache Logits : Type} {tied : Bool} {q : Param} {L : Nat}

/-- A checkpoint: its keys and their tensors. -/
structure Checkpoint (Tensor : Type) where
  keys : List String
  tensor : String → Tensor

/-- A source that serves the checkpoint without failures. -/
def Checkpoint.source (checkpoint : Checkpoint Tensor) : WeightsSource Tensor where
  listKeys := .ok checkpoint.keys
  getTensor key :=
    if key ∈ checkpoint.keys then .ok (checkpoint.tensor key) else .error ("key not found: " ++ key)

/-- The key of a parameter of the whole model in a Hugging Face checkpoint. -/
def hfName : Param → String
  | .lmHead => "lm_head.weight"
  | param => "model." ++ param.name

/-- The single module for all layers. -/
def wholeSpec (L : Nat) : ShardSpec := ⟨0, L, true, true⟩

/-- The parameter of the whole model behind a parameter of a shard. -/
def globalParam (start : Nat) : Param → Param
  | .layer index param => .layer (start + index) param
  | param => param

theorem names_global {start : Nat} {key : String} :
    Names start key q ↔ Names 0 key (globalParam start q) := by
  cases q with
  | layer index param => simp [Names, globalParam]
  | embedTokens | norm | lmHead => exact Iff.rfl

theorem names_hfName (q : Param) : Names 0 (hfName q) q := by
  cases q with
  | layer index param =>
    refine ⟨(toString index).toList, [], ?_, fun c member => ?_, ?_, .inl rfl, ?_⟩
    · rw [Decimal.toString_toList]
      exact Nat.toDigits_ne_nil
    · exact Decimal.isDigit_of_ascii (Decimal.isDigit_toString member)
    · rw [Decimal.value_toString, Int.zero_add]
    · simp only [hfName, Param.name, String.toList_append, List.append_assoc, List.append_nil]
      rfl
  | lmHead => exact .inl rfl
  | embedTokens | norm => rfl

theorem loadShard_checkpoint (checkpoint : Checkpoint Tensor) (spec : ShardSpec) :
    loadShard checkpoint.source spec =
      .ok ((checkpoint.keys.filter (wanted spec)).map fun key => (key, checkpoint.tensor key)) := by
  refine Fallible.bind_eq_ok_iff.mpr ⟨checkpoint.keys, rfl, ?_⟩
  rw [keysForShard_eq_filter, Fallible.mapM_eq_ok_iff, List.forall₂_map_right_iff, List.forall₂_same]
  intro key member
  have known : key ∈ checkpoint.keys := List.mem_of_mem_filter member
  simp only [Checkpoint.source, if_pos known]
  rfl

/-- The copies onto an owned parameter, read off the checkpoint: the tensors of
the keys that name it. -/
theorem copies_checkpoint (checkpoint : Checkpoint Tensor) {spec : ShardSpec}
    (owned : q ∈ ownParams spec tied) {names : String → Bool}
    (named : ∀ key, names key ↔ Names spec.startLayer key q) :
    copies spec tied ((checkpoint.keys.filter (wanted spec)).map fun key => (key, checkpoint.tensor key)) q =
      (checkpoint.keys.filter names).map checkpoint.tensor := by
  rw [copies, List.filter_map, List.map_map, List.filter_filter]
  refine congrArg (List.map checkpoint.tensor) (List.filter_congr fun key _ => ?_)
  rw [Bool.eq_iff_iff, named, ← wanted_target_iff owned, Bool.and_eq_true]
  simp only [Function.comp_apply, decide_eq_true_eq]
  exact and_comm

/-- The checkpoint has every key of the whole model. -/
def Checkpoint.Complete (checkpoint : Checkpoint Tensor) (L : Nat) (tied : Bool) : Prop :=
  ∀ q ∈ ownParams (wholeSpec L) tied, hfName q ∈ checkpoint.keys

/-- The tensors of the keys that name a parameter have its shape. -/
def Checkpoint.Shaped (checkpoint : Checkpoint Tensor) (L : Nat) (cfg : LlamaConfig V)
    (shape : Tensor → List Int) : Prop :=
  ∀ key ∈ checkpoint.keys, ∀ q ∈ ownParams (wholeSpec L) cfg.tieWordEmbeddings, Names 0 key q →
    shape (checkpoint.tensor key) = paramShape cfg q

/-- A range of layers of the whole model. -/
structure Within (L start stop : Nat) : Prop where
  ordered : start ≤ stop
  bounded : stop ≤ L

/-- The shard of these layers. -/
def rangeSpec (start stop : Nat) (isFirst isLast : Bool) : ShardSpec := ⟨start, stop, isFirst, isLast⟩

variable {start stop : Nat} {isFirst isLast : Bool} {cfg : LlamaConfig V} {conv : Conversions V}
  {config : ConfigDict V} {checkpoint : Checkpoint Tensor} {sem : Semantics V Tensor Row Cache Logits}

theorem rangeSpec_layerCount : (rangeSpec start stop isFirst isLast).layerCount = stop - start := by
  simp only [ShardSpec.layerCount, rangeSpec]
  omega

theorem wholeSpec_layerCount : (wholeSpec L).layerCount = L := by
  simp [ShardSpec.layerCount, wholeSpec]

/-- A shard's parameters are parameters of the whole model. -/
theorem globalParam_mem (within : Within L start stop)
    (owned : q ∈ ownParams (rangeSpec start stop isFirst isLast) tied) :
    globalParam start q ∈ ownParams (wholeSpec L) tied := by
  cases q with
  | layer index param =>
    have bound := layer_mem.mp owned
    rw [rangeSpec_layerCount] at bound
    have upper := within.bounded
    apply layer_mem.mpr
    rw [wholeSpec_layerCount]
    omega
  | embedTokens => exact embedTokens_mem.mpr rfl
  | norm => exact norm_mem.mpr rfl
  | lmHead => exact lmHead_mem.mpr ⟨rfl, (lmHead_mem.mp owned).2⟩

theorem paramShape_global : paramShape cfg (globalParam start q) = paramShape cfg q := by
  cases q <;> rfl

theorem createModule_range (within : Within L start stop)
    (created : createModule conv config (wholeSpec L) = .ok cfg) :
    createModule conv config (rangeSpec start stop isFirst isLast) = .ok cfg := by
  obtain ⟨parsed, heads, fits⟩ := createModule_eq_ok_iff.mp created
  refine createModule_eq_ok_iff.mpr ⟨parsed, heads, fun q owned dim member => ?_⟩
  exact fits (globalParam start q) (globalParam_mem within owned) dim (by rwa [paramShape_global])

/-- The tensors the whole model copies onto a parameter. -/
def Checkpoint.tensors (checkpoint : Checkpoint Tensor) (L : Nat) (tied : Bool) (q : Param) : List Tensor :=
  copies (wholeSpec L) tied
    ((checkpoint.keys.filter (wanted (wholeSpec L))).map fun key => (key, checkpoint.tensor key)) q

/-- A shard copies the same tensors onto its parameter as the whole model does. -/
theorem copies_range (checkpoint : Checkpoint Tensor) (within : Within L start stop)
    (owned : q ∈ ownParams (rangeSpec start stop isFirst isLast) tied) :
    copies (rangeSpec start stop isFirst isLast) tied
        ((checkpoint.keys.filter (wanted (rangeSpec start stop isFirst isLast))).map fun key =>
          (key, checkpoint.tensor key)) q =
      checkpoint.tensors L tied (globalParam start q) := by
  let names : String → Bool := fun key =>
    wanted (wholeSpec L) key && target (wholeSpec L) tied key = some (globalParam start q)
  have whole : ∀ key, names key ↔ Names 0 key (globalParam start q) := by
    intro key
    simp only [names, Bool.and_eq_true, decide_eq_true_eq]
    exact wanted_target_iff (globalParam_mem within owned)
  rw [Checkpoint.tensors, copies_checkpoint checkpoint (globalParam_mem within owned) whole]
  exact copies_checkpoint checkpoint owned fun key => (whole key).trans names_global.symm

/-- A complete checkpoint has a tensor for every parameter. -/
theorem tensors_ne_nil (complete : checkpoint.Complete L tied) (owned : q ∈ ownParams (wholeSpec L) tied) :
    checkpoint.tensors L tied q ≠ [] := by
  have named := names_hfName q
  obtain ⟨kept, targeted⟩ := (wanted_target_iff owned).mpr named
  have present := complete q owned
  rw [Checkpoint.tensors, copies, ne_eq, List.map_eq_nil_iff, List.filter_eq_nil_iff]
  intro none_
  refine none_ (hfName q, checkpoint.tensor (hfName q)) ?_ (by simpa using targeted)
  exact List.mem_map.mpr ⟨hfName q, List.mem_filter.mpr ⟨present, kept⟩, rfl⟩

variable (isFirst isLast) in
/-- Loading a shard succeeds and copies onto every parameter the last tensor of its names,
when each has one. -/
theorem loadModule_values (within : Within L start stop)
    (created : createModule conv config (wholeSpec L) = .ok cfg)
    (present : ∀ q ∈ ownParams (wholeSpec L) cfg.tieWordEmbeddings, checkpoint.tensors L cfg.tieWordEmbeddings q ≠ [])
    (shaped : checkpoint.Shaped L cfg sem.shape) (initial : Params Tensor) :
    ∃ params loaded, loadModule sem conv checkpoint.source config (rangeSpec start stop isFirst isLast) initial =
        .ok { cfg := cfg, spec := rangeSpec start stop isFirst isLast, params := params, loaded := loaded } ∧
      ∀ q ∈ ownParams (rangeSpec start stop isFirst isLast) cfg.tieWordEmbeddings, q ∈ loaded ∧
        some (params q) = (checkpoint.tensors L cfg.tieWordEmbeddings (globalParam start q)).getLast? := by
  have fits : ∀ entry ∈ (checkpoint.keys.filter (wanted (rangeSpec start stop isFirst isLast))).map
      (fun key => (key, checkpoint.tensor key)), ∀ q,
      target (rangeSpec start stop isFirst isLast) cfg.tieWordEmbeddings entry.1 = some q →
        sem.shape entry.2 = paramShape cfg q := by
    intro entry member q targeted
    obtain ⟨key, kept, rfl⟩ := List.mem_map.mp member
    obtain ⟨present, kept⟩ := List.mem_filter.mp kept
    obtain ⟨owned, named⟩ := (target_iff_names kept).mp targeted
    have whole := shaped key present _ (globalParam_mem within owned) (names_global.mp named)
    rwa [paramShape_global] at whole
  obtain ⟨⟨params, loaded⟩, ran⟩ := loadStateDict_succeeds fits initial
  refine ⟨params, loaded, ?_, fun q owned => ?_⟩
  · simp only [loadModule, loadShard_checkpoint, createModule_range within created, bind, Except.bind, ran]
    rfl
  · obtain ⟨value, copied⟩ := loadStateDict_copies ran q
    rw [copies_range checkpoint within owned] at value copied
    have some_ := present _ (globalParam_mem within owned)
    rw [value, List.getLast?_eq_some_getLast some_, Option.getD_some]
    exact ⟨copied.mpr some_, rfl⟩

variable (isFirst isLast) in
theorem loadModule_range (within : Within L start stop)
    (created : createModule conv config (wholeSpec L) = .ok cfg)
    (complete : checkpoint.Complete L cfg.tieWordEmbeddings) (shaped : checkpoint.Shaped L cfg sem.shape)
    (initial : Params Tensor) :
    ∃ params loaded, loadModule sem conv checkpoint.source config (rangeSpec start stop isFirst isLast) initial =
        .ok { cfg := cfg, spec := rangeSpec start stop isFirst isLast, params := params, loaded := loaded } ∧
      ∀ q ∈ ownParams (rangeSpec start stop isFirst isLast) cfg.tieWordEmbeddings,
        some (params q) = (checkpoint.tensors L cfg.tieWordEmbeddings (globalParam start q)).getLast? := by
  obtain ⟨params, loaded, ran, values⟩ := loadModule_values isFirst isLast within created
    (fun _ owned => tensors_ne_nil complete owned) shaped initial
  exact ⟨params, loaded, ran, fun q owned => (values q owned).2⟩

/-! ### The single pass -/

/-- A pass without a cache through some layers. -/
def layersPlain (positions : List Int) (layers : List (LayerForward Row Cache)) (xs : List Row) :
    Except String (List Row) :=
  layers.foldlM (fun xs layer => (layer xs positions none).map Prod.fst) xs

theorem runLayers_plain (positions : List Int) (li : Nat) (layers : List (LayerForward Row Cache)) (xs : List Row) :
    (runLayers positions (pastKv false none) li layers xs).map Prod.fst = layersPlain positions layers xs := by
  induction layers generalizing li xs with
  | nil => rfl
  | cons layer layers ih =>
    simp only [runLayers, pastKv, layersPlain, List.foldlM_cons, bind, Except.bind, pure, Except.pure]
    cases layer xs positions none with
    | error text => rfl
    | ok answer =>
      have rest := ih (li + 1) answer.1
      simp only [Except.map, layersPlain] at rest ⊢
      rw [← rest]
      cases runLayers positions (pastKv false none) (li + 1) layers answer.1 <;> rfl

theorem forward_plain (shard : TorchShardModule Row Cache Logits) (items : List (Item Row Logits)) :
    (shard.forward items none 0 none).map Prod.fst =
      (items.mapM shard.embed).bind fun rows =>
        (layersPlain (ropePositions rows.length 0) shard.layers rows).bind shard.finish := by
  simp only [TorchShardModule.forward, Option.isSome_none, Bool.false_and, Bool.false_eq_true, if_false,
    Option.getD_none, bind, Except.bind, pure, Except.pure, ← runLayers_plain _ 0]
  cases items.mapM shard.embed with
  | error text => rfl
  | ok rows =>
    simp only []
    cases runLayers (ropePositions rows.length 0) (pastKv false none) 0 shard.layers rows with
    | error text => rfl
    | ok answer =>
      simp only [Except.map]
      cases shard.finish answer.1 <;> rfl

theorem layersPlain_length {positions : List Int} {layers : List (LayerForward Row Cache)} {xs ys : List Row}
    (kept : ∀ layer ∈ layers, ∀ {xs positions past ys kv}, positions.length = xs.length →
      layer xs positions past = .ok (ys, kv) → ys.length = xs.length)
    (sized : positions.length = xs.length) (ran : layersPlain positions layers xs = .ok ys) :
    ys.length = xs.length := by
  induction layers generalizing xs with
  | nil =>
    cases ran
    rfl
  | cons layer layers ih =>
    obtain ⟨here, below⟩ := List.forall_mem_cons.mp kept
    rw [layersPlain, List.foldlM_cons] at ran
    cases moved : layer xs positions none with
    | error text =>
      rw [moved] at ran
      cases ran
    | ok answer =>
      rw [moved] at ran
      have same := here sized moved
      exact (ih below (sized.trans same.symm) ran).trans same

theorem layersPlain_append {positions : List Int} {first second : List (LayerForward Row Cache)} {xs : List Row} :
    layersPlain positions (first ++ second) xs =
      (layersPlain positions first xs).bind (layersPlain positions second) := by
  rw [layersPlain, List.foldlM_append]
  rfl

/-- Hidden states pass into a shard that is not the first unchanged. -/
theorem embed_hidden (shard : TorchShardModule Row Cache Logits) (inner : shard.embedTokens = none)
    (rows : List Row) : (rows.map Item.hidden).mapM shard.embed = .ok rows := by
  induction rows with
  | nil => rfl
  | cons row rows ih =>
    rw [List.map_cons, List.mapM_cons, ih]
    simp only [embed, inner, Option.isSome_none, Bool.false_eq_true, if_false]
    rfl

/-! ### The shards of a partition -/

/-- Load a shard and run it without a cache. -/
def shardForward (sem : Semantics V Tensor Row Cache Logits) (conv : Conversions V) (source : WeightsSource Tensor)
    (config : ConfigDict V) (spec : ShardSpec) (initial : Params Tensor) (items : List (Item Row Logits)) :
    Except String (List (Item Row Logits)) := do
  let loadedModule ← loadModule sem conv source config spec initial
  let (output, _) ← (loadedModule.shard sem).forward items none 0 none
  return output

/-- Shard `i` of the partition with these boundaries. -/
def partitionSpec (N : Nat) (b : Nat → Nat) (i : Nat) : ShardSpec :=
  rangeSpec (b i) (b (i + 1)) (i = 0) (i + 1 = N)

/-- Feed each shard's output to the next one; every module starts from its own
initial values. -/
def shardedForward (sem : Semantics V Tensor Row Cache Logits) (conv : Conversions V) (source : WeightsSource Tensor)
    (config : ConfigDict V) (N : Nat) (b : Nat → Nat) (initial : Nat → Params Tensor)
    (items : List (Item Row Logits)) : Except String (List (Item Row Logits)) :=
  (List.range N).foldlM
    (fun items i => shardForward sem conv source config (partitionSpec N b i) (initial i) items) items

/-- Layer `index` of the whole model. -/
def wholeLayer (sem : Semantics V Tensor Row Cache Logits) (cfg : LlamaConfig V) (whole : Params Tensor)
    (index : Nat) : LayerForward Row Cache :=
  sem.layer cfg fun param => whole (.layer index param)

/-- The layers from `start` to `stop` of the whole model, with its parameters. -/
def piece (sem : Semantics V Tensor Row Cache Logits) (cfg : LlamaConfig V) (whole : Params Tensor)
    (start stop : Nat) (isFirst isLast : Bool) : TorchShardModule Row Cache Logits where
  embedTokens := if isFirst then some (sem.embed (whole .embedTokens)) else none
  layers := (List.range' start (stop - start)).map (wholeLayer sem cfg whole)
  head := if isLast then some ⟨sem.norm cfg (whole .norm), some (sem.lmHead (whole .lmHead))⟩ else none

variable {whole params : Params Tensor} {loaded : List Param}

/-- A loaded shard is the piece of the whole model. -/
theorem shard_eq_piece (untied : cfg.tieWordEmbeddings = false)
    (agree : ∀ q ∈ ownParams (rangeSpec start stop isFirst isLast) cfg.tieWordEmbeddings,
      params q = whole (globalParam start q)) :
    LoadedModule.shard sem { cfg := cfg, spec := rangeSpec start stop isFirst isLast, params := params, loaded := loaded } =
      piece sem cfg whole start stop isFirst isLast := by
  have layers : (List.range (rangeSpec start stop isFirst isLast).layerCount).map (fun index =>
      sem.layer cfg fun param => params (.layer index param)) =
        (List.range' start (stop - start)).map (wholeLayer sem cfg whole) := by
    rw [rangeSpec_layerCount, List.range'_eq_map_range, List.map_map]
    refine List.map_congr_left fun index member => congrArg (sem.layer cfg) (funext fun param => ?_)
    refine agree (.layer index param) (layer_mem.mpr ?_)
    rw [rangeSpec_layerCount]
    exact List.mem_range.mp member
  have embed : (if isFirst then some (sem.embed (params .embedTokens)) else none) =
      if isFirst then some (sem.embed (whole .embedTokens)) else none := by
    refine ite_congr rfl (fun first => ?_) fun _ => rfl
    exact congrArg (some <| sem.embed ·) (agree .embedTokens (embedTokens_mem.mpr first))
  have norm : isLast → params .norm = whole .norm := fun last => agree .norm (norm_mem.mpr last)
  have lmHead : isLast → params .lmHead = whole .lmHead :=
    fun last => agree .lmHead (lmHead_mem.mpr ⟨last, untied⟩)
  rw [LoadedModule.shard, piece, layers]
  refine congrArg₂ (TorchShardModule.mk · _ ·) embed (ite_congr rfl (fun last => ?_) fun _ => rfl)
  dsimp only
  rw [norm last, lmHead last, untied]
  rfl

theorem piece_untied : Untied (piece sem cfg whole start stop isFirst isLast).head := by
  intro end_ same
  cases isLast with
  | false => cases same
  | true =>
    cases same
    rfl

theorem piece_length {xs ys : List Row} {positions : List Int} (sized : positions.length = xs.length)
    (ran : layersPlain positions (piece sem cfg whole start stop isFirst isLast).layers xs = .ok ys) :
    ys.length = xs.length := by
  refine layersPlain_length (fun layer member => ?_) sized ran
  obtain ⟨index, _, rfl⟩ := List.mem_map.mp member
  exact sem.layer_length

/-- Two adjacent pieces are one. -/
theorem piece_append (ordered : start ≤ stop) (items : List (Item Row Logits)) :
    (((piece sem cfg whole 0 start true false).forward items none 0 none).map Prod.fst).bind (fun items =>
        ((piece sem cfg whole start stop false isLast).forward items none 0 none).map Prod.fst) =
      ((piece sem cfg whole 0 stop true isLast).forward items none 0 none).map Prod.fst := by
  have layers : (piece sem cfg whole 0 stop true isLast).layers =
      (piece sem cfg whole 0 start true false).layers ++ (piece sem cfg whole start stop false isLast).layers := by
    simp only [piece, Nat.sub_zero, ← List.map_append]
    rw [show stop = start + (stop - start) by omega, ← List.range'_append_1, Nat.zero_add,
      Nat.add_sub_cancel_left]
  rw [forward_plain, forward_plain]
  have sameEmbed : (piece sem cfg whole 0 stop true isLast).embed = (piece sem cfg whole 0 start true false).embed := rfl
  rw [sameEmbed, layers]
  cases items.mapM (piece sem cfg whole 0 start true false).embed with
  | error text => rfl
  | ok rows =>
    simp only [Except.bind, layersPlain_append]
    cases first : layersPlain (ropePositions rows.length 0) (piece sem cfg whole 0 start true false).layers rows with
    | error text => rfl
    | ok ys =>
      have hidden : (piece sem cfg whole 0 start true false).finish ys = .ok (ys.map Item.hidden) := rfl
      have entered := embed_hidden (piece sem cfg whole start stop false isLast) rfl ys
      have sized := piece_length (ropePositions_length rows.length 0) first
      simp only [hidden, forward_plain, entered, Except.bind, sized]
      cases layersPlain (ropePositions rows.length 0) (piece sem cfg whole start stop false isLast).layers ys with
      | error text => rfl
      | ok zs => simp only [finish_untied _ piece_untied]; rfl

variable (isFirst isLast) in
/-- A shard run from the checkpoint is the piece of the whole model, whose
parameters are the last tensors of their names. -/
theorem shardForward_eq_piece (within : Within L start stop)
    (created : createModule conv config (wholeSpec L) = .ok cfg) (untied : cfg.tieWordEmbeddings = false)
    (complete : checkpoint.Complete L cfg.tieWordEmbeddings) (shaped : checkpoint.Shaped L cfg sem.shape)
    (values : ∀ q ∈ ownParams (wholeSpec L) cfg.tieWordEmbeddings,
      some (whole q) = (checkpoint.tensors L cfg.tieWordEmbeddings q).getLast?)
    (initial : Params Tensor) (items : List (Item Row Logits)) :
    shardForward sem conv checkpoint.source config (rangeSpec start stop isFirst isLast) initial items =
      ((piece sem cfg whole start stop isFirst isLast).forward items none 0 none).map Prod.fst := by
  obtain ⟨params, loaded, ran, value⟩ :=
    loadModule_range isFirst isLast within created complete shaped initial
  have agree : ∀ q ∈ ownParams (rangeSpec start stop isFirst isLast) cfg.tieWordEmbeddings,
      params q = whole (globalParam start q) := by
    intro q owned
    exact Option.some.inj ((value q owned).trans (values _ (globalParam_mem within owned)).symm)
  simp only [shardForward, ran, bind, Except.bind, shard_eq_piece untied agree]
  cases (piece sem cfg whole start stop isFirst isLast).forward items none 0 none <;> rfl

variable (sem cfg whole) in
/-- The first `n` pieces of a partition are one piece. -/
theorem pieces_run {N : Nat} {b : Nat → Nat} (first : b 0 = 0) (ordered : ∀ i < N, b i ≤ b (i + 1))
    (items : List (Item Row Logits)) {n : Nat} (some_ : 1 ≤ n) (upper : n ≤ N) :
    (List.range n).foldlM (fun items i =>
        ((piece sem cfg whole (b i) (b (i + 1)) (i = 0) (i + 1 = N)).forward items none 0 none).map Prod.fst) items =
      ((piece sem cfg whole 0 (b n) true (n = N)).forward items none 0 none).map Prod.fst := by
  induction n, some_ using Nat.le_induction with
  | base =>
    simp only [List.range_one, List.foldlM_cons, List.foldlM_nil, first, decide_true, Nat.zero_add, bind_pure]
  | succ n some_ ih =>
    have inner : (decide (n = 0)) = false := decide_eq_false (by omega)
    have notLast : (decide (n = N)) = false := decide_eq_false (by omega)
    rw [List.range_succ, List.foldlM_append, ih (by omega)]
    simp only [List.foldlM_cons, List.foldlM_nil, inner, notLast, bind_pure]
    exact piece_append (ordered n (by omega)) items

theorem boundary_le {N : Nat} {b : Nat → Nat} (ordered : ∀ i < N, b i ≤ b (i + 1)) {i j : Nat}
    (before : i ≤ j) (upper : j ≤ N) : b i ≤ b j := by
  induction j, before using Nat.le_induction with
  | base => exact Nat.le_refl _
  | succ j _ ih => exact (ih (by omega)).trans (ordered j (by omega))

/-- For a complete checkpoint of an untied model, the shards of every partition of
the layers, loaded one by one and run one after the other, compute what the single
module computes, whatever the initial values were. -/
theorem sharded_eq_monolithic (created : createModule conv config (wholeSpec L) = .ok cfg)
    (untied : cfg.tieWordEmbeddings = false) (complete : checkpoint.Complete L cfg.tieWordEmbeddings)
    (shaped : checkpoint.Shaped L cfg sem.shape) {N : Nat} (positive : 1 ≤ N) {b : Nat → Nat} (first : b 0 = 0)
    (last : b N = L) (ordered : ∀ i < N, b i ≤ b (i + 1)) (initial : Nat → Params Tensor)
    (initialWhole : Params Tensor) (items : List (Item Row Logits)) :
    (∃ loadedModule, loadModule sem conv checkpoint.source config (wholeSpec L) initialWhole = .ok loadedModule) ∧
      shardedForward sem conv checkpoint.source config N b initial items =
        shardForward sem conv checkpoint.source config (wholeSpec L) initialWhole items := by
  have everything : Within L 0 L := ⟨Nat.zero_le L, Nat.le_refl L⟩
  obtain ⟨whole, loaded, ran, values⟩ :=
    loadModule_range true true everything created complete shaped initialWhole
  have values : ∀ q ∈ ownParams (wholeSpec L) cfg.tieWordEmbeddings,
      some (whole q) = (checkpoint.tensors L cfg.tieWordEmbeddings q).getLast? := by
    intro q owned
    have value := values q owned
    cases q with
    | layer index param => rwa [globalParam, Nat.zero_add] at value
    | embedTokens | norm | lmHead => exact value
  refine ⟨⟨_, ran⟩, ?_⟩
  have single := shardForward_eq_piece true true everything created untied complete
    shaped values initialWhole items
  have pieces := pieces_run cfg sem whole first ordered items positive (Nat.le_refl N)
  rw [last, decide_eq_true rfl] at pieces
  refine Eq.trans ?_ (pieces.trans single.symm)
  refine Fallible.foldlM_congr (fun i member items => ?_) items
  have below : i < N := List.mem_range.mp member
  have within : Within L (b i) (b (i + 1)) := ⟨ordered i below, last ▸ boundary_le ordered below (Nat.le_refl N)⟩
  exact shardForward_eq_piece _ _ within created untied complete shaped values (initial i) items

/-! ### A model of one layer in two shards, the first of them without layers -/

def singleHead : HeadLayout := ⟨1, 1, Nat.one_pos, Nat.one_pos, Nat.dvd_refl 1⟩

/-- A tensor is its shape and one number. -/
def integerDecoder (params : LayerParam → List Int × Int) : LlamaDecoderLayer singleHead Int Int where
  inputLayernorm x := x * (params .inputLayernorm).2
  selfAttn :=
    { qProj := fun x _ => x * (params .qProj).2
      kProj := fun x _ => x * (params .kProj).2
      vProj := fun x _ => x * (params .vProj).2
      oProj := fun heads => heads ⟨0, by decide⟩ * (params .oProj).2 }
  postAttentionLayernorm x := x * (params .postAttentionLayernorm).2
  mlp x := x * (params .gateProj).2 + x * (params .upProj).2 + x * (params .downProj).2

def integerSemantics {V : Type} : Semantics V (List Int × Int) Int (Kv singleHead Int) Int where
  shape := Prod.fst
  embed tensor id := .ok (tensor.2 + id)
  layer _ params := (integerDecoder params).forward integerKernels
  norm _ tensor x := x * tensor.2
  lmHead tensor x := x + tensor.2
  layer_length sized ran := (LlamaDecoderLayer.forward_lengths sized ran).1

def integerConversions : Conversions Int where
  int v := .ok v
  float v := .ok v
  bool v := v != 0
  widened v := .ok (2 * v)

/-- Every size is 1. -/
def tinyConfig : ConfigDict Int :=
  [("vocab_size", 1), ("hidden_size", 1), ("num_attention_heads", 1), ("intermediate_size", 1)]

def tinyCheckpoint : Checkpoint (List Int × Int) where
  keys := (ownParams (wholeSpec 1) false).map hfName
  tensor key := (if "norm.weight".toList.isSuffixOf key.toList then [1] else [1, 1], 1)

def tinyParsed : LlamaConfig Int where
  vocabSize := 1
  hiddenSize := 1
  numHiddenLayers := 32
  numAttentionHeads := 1
  numKeyValueHeads := 1
  intermediateSize := 1
  rmsNormEps := none
  ropeTheta := none
  maxPositionEmbeddings := 2048
  tieWordEmbeddings := false

theorem sharded_eq_monolithic_empty_first :
    shardForward integerSemantics integerConversions tinyCheckpoint.source tinyConfig (wholeSpec 1)
        (fun _ => ([], 0)) [.token 0, .token 3] = .ok [.logits 9, .logits 437] ∧
      shardedForward integerSemantics integerConversions tinyCheckpoint.source tinyConfig 2
          (fun i => i - 1) (fun _ _ => ([], 0)) [.token 0, .token 3] =
        shardForward integerSemantics integerConversions tinyCheckpoint.source tinyConfig (wholeSpec 1)
          (fun _ => ([], 0)) [.token 0, .token 3] := by
  have shapes : ∀ key ∈ tinyCheckpoint.keys, ∀ q ∈ ownParams (wholeSpec 1) false,
      target (wholeSpec 1) false key = some q → (tinyCheckpoint.tensor key).1 = paramShape tinyParsed q := by
    decide +kernel
  have shaped : tinyCheckpoint.Shaped 1 tinyParsed Prod.fst := fun key member q owned named =>
    shapes key member q owned ((wanted_target_iff owned).mpr named).2
  refine ⟨by decide +kernel, ?_⟩
  exact (sharded_eq_monolithic rfl rfl (fun q owned => List.mem_map_of_mem owned)
    shaped (by decide) rfl rfl (by decide) _ _ _).2

end ComputeCloudNode.Weights
