import ComputeCloudNode.Llm.GenerationPayloads
import ComputeCloudNode.Llm.LocalSource

/-! Saving a model and loading its shards. `_build_tiny_model` and `_save_to_dir` write the
parameters of the single module to one file, under their names with `model.` before them;
whatever the order in that file, a shard of any layer range loads its own parameters and
nothing else. -/
namespace ComputeCloudNode.LocalSource
open HubSource LLMShardExecutor ModelConfig ModelShard Weights

variable {F V Tensor Row Cache Logits : Type}

/-! ### What is written -/

/-- `f"model.{name}"`. -/
def savedKey (q : Param) : String := "model." ++ q.name

/-- The `state_dict` of `_build_tiny_model`. -/
def stateDict (whole : Params Tensor) (L : Nat) (tied : Bool) : List (String × Tensor) :=
  (ownParams (wholeSpec L) tied).map fun q => (savedKey q, whole q)

/-- A directory with these files. -/
def Disk.ofFiles (dir : String) (files : List (String × List UInt8)) : Disk :=
  { dir := dir, files := files.map fun file => (joinPath dir file.1, file.2) }

/-- `_save_to_dir`. -/
def saveToDir (saveFile : List (String × Tensor) → List UInt8) (dumps : Value F → List UInt8) (tmpdir : String)
    (config : Dict F) (stateDict : List (String × Tensor)) (tokenizer : Option (List UInt8)) : Disk :=
  .ofFiles tmpdir <| [("config.json", dumps (.dict config)), ("model.safetensors", saveFile stateDict)] ++
    (tokenizer.map fun content => ("tokenizer.json", content)).toList

/-- What `safetensors` has written, it reads: the same keys, in an order of its own, and
their tensors. -/
structure ReadsBack (formats : Formats F Tensor) (content : List UInt8) (entries : List (String × Tensor)) : Prop where
  keys : ∃ keys, formats.safeOpen content = .ok keys ∧ keys.Perm (entries.map Prod.fst)
  tensor : ∀ entry ∈ entries, formats.getTensor content entry.1 = .ok entry.2

/-! ### Paths -/

theorem joinPath_injective (root : String) {name other : String} (relative : Uri.startsWith name.toList "/" = false)
    (relative' : Uri.startsWith other.toList "/" = false) (same : joinPath root name = joinPath root other) :
    name = other := by
  apply String.toList_inj.mp
  simp only [joinPath, relative, relative', Bool.false_eq_true, if_false] at same
  split at same
  · simpa [← String.toList_inj] using same
  · simpa [← String.toList_inj] using same

theorem Disk.read_ofFiles (dir : String) {files : List (String × List UInt8)}
    (relative : ∀ file ∈ files, Uri.startsWith file.1.toList "/" = false) {name : String}
    (asked : Uri.startsWith name.toList "/" = false) : (Disk.ofFiles dir files).read name = files.lookup name := by
  induction files with
  | nil => rfl
  | cons file files ih =>
    obtain ⟨other, content⟩ := file
    obtain ⟨here, rest⟩ := List.forall_mem_cons.mp relative
    have below := ih rest
    simp only [Disk.read, Disk.ofFiles, List.map_cons, List.lookup_cons] at below ⊢
    by_cases same : name = other
    · rw [same, beq_self_eq_true, beq_self_eq_true]
    · have differ : joinPath dir name ≠ joinPath dir other := fun paths => same (joinPath_injective dir asked here paths)
      rw [beq_false_of_ne differ, beq_false_of_ne same]
      exact below

section Saved

variable {saveFile : List (String × Tensor) → List UInt8} {dumps : Value F → List UInt8} {tmpdir : String}
  {config : Dict F} {entries : List (String × Tensor)} {tokenizer : Option (List UInt8)} {formats : Formats F Tensor}

theorem saved_relative : ∀ file ∈ [("config.json", dumps (.dict config)), ("model.safetensors", saveFile entries)] ++
    (tokenizer.map fun content => ("tokenizer.json", content)).toList, Uri.startsWith file.1.toList "/" = false := by
  cases tokenizer <;> simp [Uri.startsWith, List.isPrefixOf]

theorem read_weights :
    (saveToDir saveFile dumps tmpdir config entries tokenizer).read "model.safetensors" = some (saveFile entries) := by
  rw [saveToDir, Disk.read_ofFiles tmpdir saved_relative rfl]
  rfl

theorem read_config :
    (saveToDir saveFile dumps tmpdir config entries tokenizer).read "config.json" = some (dumps (.dict config)) := by
  rw [saveToDir, Disk.read_ofFiles tmpdir saved_relative rfl]
  rfl

end Saved

/-! ### Names -/

variable {L : Nat} {tied : Bool} {q p : Param} {key : String}

theorem savedKey_injective : Function.Injective savedKey := by
  intro p q same
  apply name_injective
  apply String.toList_inj.mp
  simpa [savedKey, ← String.toList_inj] using same

theorem names_savedKey (q : Param) : Names 0 (savedKey q) q := by
  cases q with
  | layer index param => exact names_hfName (.layer index param)
  | lmHead => exact .inr rfl
  | embedTokens | norm => rfl

/-- A key is a name of one parameter. -/
theorem names_unique (pOwned : p ∈ ownParams (wholeSpec L) tied) (qOwned : q ∈ ownParams (wholeSpec L) tied)
    (pNamed : Names 0 key p) (qNamed : Names 0 key q) : p = q := by
  have first := ((wanted_target_iff pOwned).mpr pNamed).2
  have second := ((wanted_target_iff qOwned).mpr qNamed).2
  exact Option.some.inj (first.symm.trans second)

theorem ownParams_nodup (spec : ShardSpec) (tied : Bool) : (ownParams spec tied).Nodup := by
  have layers : ((List.range spec.layerCount).flatMap fun index => LayerParam.all.map (Param.layer index)).Nodup := by
    rw [List.nodup_flatMap]
    constructor
    · intro index _
      apply List.Nodup.map
      · intro left right same
        cases same
        rfl
      · decide
    · refine List.nodup_range.imp fun differ => List.disjoint_left.mpr ?_
      intro q left right
      obtain ⟨_, _, rfl⟩ := List.mem_map.mp left
      obtain ⟨_, _, same⟩ := List.mem_map.mp right
      cases same
      exact differ rfl
  unfold ownParams
  cases spec.isFirst <;> cases spec.isLast <;> cases tied <;> simp [List.nodup_append, layers]
  all_goals
    rintro _ _ _ _ _ rfl
    simp

theorem stateDict_keys (whole : Params Tensor) :
    (stateDict whole L tied).map Prod.fst = (ownParams (wholeSpec L) tied).map savedKey := by
  rw [stateDict, List.map_map]
  rfl

theorem stateDict_nodup (whole : Params Tensor) : ((stateDict whole L tied).map Prod.fst).Nodup := by
  rw [stateDict_keys]
  exact (ownParams_nodup _ _).map savedKey_injective

/-! ### Loading what was saved -/

section Loading

variable {saveFile : List (String × Tensor) → List UInt8} {dumps : Value F → List UInt8} {tmpdir : String}
  {saved config : Dict F} {tokenizer : Option (List UInt8)} {formats : Formats F Tensor} {whole : Params Tensor}

/-- The saved directory as a checkpoint. -/
def savedCheckpoint (keys : List String) (whole : Params Tensor) (L : Nat) (tied : Bool) : Checkpoint Tensor where
  keys := keys
  tensor key := (((ownParams (wholeSpec L) tied).find? fun q => savedKey q = key).map whole).getD (whole .norm)

theorem savedCheckpoint_tensor (keys : List String) (owned : q ∈ ownParams (wholeSpec L) tied) :
    (savedCheckpoint keys whole L tied).tensor (savedKey q) = whole q := by
  have read : (savedCheckpoint keys whole L tied).tensor (savedKey q) =
      (((ownParams (wholeSpec L) tied).find? fun p => savedKey p = savedKey q).map whole).getD (whole .norm) := rfl
  rw [read]
  cases found : (ownParams (wholeSpec L) tied).find? fun p => savedKey p = savedKey q with
  | none =>
    have missed := List.find?_eq_none.mp found q owned
    simp at missed
  | some p =>
    have same := List.find?_some found
    rw [savedKey_injective (of_decide_eq_true same), Option.map_some, Option.getD_some]

/-- Each parameter is copied from its own tensor. -/
theorem savedCheckpoint_tensors {keys : List String} (perm : keys.Perm ((stateDict whole L tied).map Prod.fst))
    (owned : q ∈ ownParams (wholeSpec L) tied) : (savedCheckpoint keys whole L tied).tensors L tied q = [whole q] := by
  have distinct : keys.Nodup := perm.nodup_iff.mpr (stateDict_nodup whole)
  have present : savedKey q ∈ keys := by
    rw [perm.mem_iff, stateDict_keys]
    exact List.mem_map_of_mem owned
  let names : String → Bool := fun key => wanted (wholeSpec L) key && target (wholeSpec L) tied key = some q
  have named : ∀ key, names key ↔ Names 0 key q := by
    intro key
    simp only [names, Bool.and_eq_true, decide_eq_true_eq]
    exact wanted_target_iff owned
  have only : keys.filter names = keys.filter fun key => key == savedKey q := by
    apply List.filter_congr
    intro key member
    rw [perm.mem_iff, stateDict_keys] at member
    obtain ⟨p, pOwned, rfl⟩ := List.mem_map.mp member
    rw [Bool.eq_iff_iff, named, beq_iff_eq]
    constructor
    · intro qNamed
      rw [names_unique pOwned owned (names_savedKey p) qNamed]
    · intro same
      rw [same]
      exact names_savedKey q
  rw [Checkpoint.tensors, copies_checkpoint _ owned named]
  change (keys.filter names).map _ = _
  rw [only, List.filter_beq, List.count_eq_one_of_mem distinct present, List.replicate_one, List.map_singleton,
    savedCheckpoint_tensor keys owned]

theorem lookup_map_same (keys : List String) (key : String) (v : Value F) :
    (keys.map fun key => (key, v)).lookup key = if key ∈ keys then some v else none := by
  induction keys with
  | nil => rfl
  | cons other keys ih =>
    rw [List.map_cons, List.lookup_cons, ih]
    by_cases same : key = other
    · rw [same, beq_self_eq_true, if_pos List.mem_cons_self]
    · rw [beq_false_of_ne same]
      simp only [List.mem_cons, same, false_or]

variable (dumps tmpdir saved tokenizer) in
/-- The saved directory serves the saved parameters. -/
theorem saved_source (weights : ReadsBack formats (saveFile (stateDict whole L tied)) (stateDict whole L tied)) :
    ∃ keys, keys.Perm ((stateDict whole L tied).map Prod.fst) ∧
      (uncached formats (saveToDir saveFile dumps tmpdir saved (stateDict whole L tied) tokenizer)).toWeightsSource =
        (savedCheckpoint keys whole L tied).source := by
  obtain ⟨keys, opened, perm⟩ := weights.keys
  have file : openFile formats (saveToDir saveFile dumps tmpdir saved (stateDict whole L tied) tokenizer)
      "model.safetensors" = .ok (saveFile (stateDict whole L tied)) := by
    simp only [openFile, read_weights, opened]
    rfl
  have index : readIndex formats (saveToDir saveFile dumps tmpdir saved (stateDict whole L tied) tokenizer) =
      .ok (keys.map fun key => (key, .str "model.safetensors")) := by
    simp only [readIndex, read_weights, Option.isSome_some, if_true, file, Fallible.bind_ok, opened]
    rfl
  refine ⟨keys, perm, ?_⟩
  rw [Checkpoint.source, WeightsSource.mk.injEq]
  constructor
  · simp only [uncached, index, Fallible.bind_ok, List.map_map, Function.comp_def, List.map_id']
    rfl
  · funext key
    simp only [uncached, index, Fallible.bind_ok, indexedFile, lookup_map_same]
    by_cases present : key ∈ keys
    · have listed := present
      rw [perm.mem_iff, stateDict_keys] at listed
      obtain ⟨q, owned, rfl⟩ := List.mem_map.mp listed
      have read := weights.tensor (savedKey q, whole q) (List.mem_map_of_mem owned)
      have kept : savedKey q ∈ (savedCheckpoint keys whole L tied).keys := present
      rw [if_pos present, if_pos kept, savedCheckpoint_tensor keys owned]
      simp only [Fallible.bind_ok, file]
      exact read
    · have absent : key ∉ (savedCheckpoint keys whole L tied).keys := present
      rw [if_neg present, if_neg absent]
      rfl

theorem savedCheckpoint_shaped {keys : List String} (perm : keys.Perm ((stateDict whole L tied).map Prod.fst))
    {cfg : LlamaConfig V} (same : cfg.tieWordEmbeddings = tied) {shape : Tensor → List Int}
    (shaped : ∀ q ∈ ownParams (wholeSpec L) tied, shape (whole q) = paramShape cfg q) :
    (savedCheckpoint keys whole L tied).Shaped L cfg shape := by
  subst same
  intro key member q owned named
  have listed := perm.mem_iff.mp member
  rw [stateDict_keys] at listed
  obtain ⟨p, pOwned, rfl⟩ := List.mem_map.mp listed
  rw [names_unique pOwned owned (names_savedKey p) named, savedCheckpoint_tensor keys owned]
  exact shaped q owned

variable (saveFile dumps tmpdir saved tokenizer) in
/-- A shard of any layer range of a saved model loads from the directory exactly its own
parameters of that model, all of them, whatever it was filled with before. -/
theorem saved_model_loads {conv : Conversions V} {config : ConfigDict V} {cfg : LlamaConfig V}
    {sem : Semantics V Tensor Row Cache Logits} {start stop : Nat} {isFirst isLast : Bool}
    (weights : ReadsBack formats (saveFile (stateDict whole L cfg.tieWordEmbeddings))
      (stateDict whole L cfg.tieWordEmbeddings))
    (created : createModule conv config (wholeSpec L) = .ok cfg)
    (shaped : ∀ q ∈ ownParams (wholeSpec L) cfg.tieWordEmbeddings, sem.shape (whole q) = paramShape cfg q)
    (within : Within L start stop) (initial : Params Tensor) :
    ∃ params loaded,
      loadModule sem conv (uncached formats (saveToDir saveFile dumps tmpdir saved
          (stateDict whole L cfg.tieWordEmbeddings) tokenizer)).toWeightsSource config
          (rangeSpec start stop isFirst isLast) initial =
        .ok { cfg := cfg, spec := rangeSpec start stop isFirst isLast, params := params, loaded := loaded } ∧
      ∀ q ∈ ownParams (rangeSpec start stop isFirst isLast) cfg.tieWordEmbeddings,
        q ∈ loaded ∧ params q = whole (globalParam start q) := by
  obtain ⟨keys, perm, source⟩ := saved_source dumps tmpdir saved tokenizer weights
  have tensors : ∀ q ∈ ownParams (wholeSpec L) cfg.tieWordEmbeddings,
      (savedCheckpoint keys whole L cfg.tieWordEmbeddings).tensors L cfg.tieWordEmbeddings q = [whole q] :=
    fun q owned => savedCheckpoint_tensors perm owned
  have present : ∀ q ∈ ownParams (wholeSpec L) cfg.tieWordEmbeddings,
      (savedCheckpoint keys whole L cfg.tieWordEmbeddings).tensors L cfg.tieWordEmbeddings q ≠ [] := by
    intro q owned
    rw [tensors q owned]
    exact List.cons_ne_nil _ _
  obtain ⟨params, loaded, ran, values⟩ := loadModule_values isFirst isLast within created present
    (savedCheckpoint_shaped perm rfl shaped) initial
  refine ⟨params, loaded, ?_, fun q owned => ?_⟩
  · rw [source]
    exact ran
  · obtain ⟨copied, value⟩ := values q owned
    rw [tensors _ (globalParam_mem within owned)] at value
    exact ⟨copied, Option.some.inj value⟩

/-- A generation over any partition of a saved model, with the directory as its source. -/
theorem saved_sound [PyRuntime F] {Row Head Score Logits : Type} {layout : HeadLayout}
    {model : LlamaArithmetic (Value F) Tensor Row Head Score Logits layout} {lib : JsonLibrary F Row}
    {world : World (Value F) Tensor} {run : Generation F} {cfg : LlamaConfig (Value F)} {prompt : List Int}
    (weights : ReadsBack formats (saveFile (stateDict whole (run.boundary run.shardCount) false))
      (stateDict whole (run.boundary run.shardCount) false))
    (written : formats.loadJson (dumps (.dict saved)) = .ok (.dict saved))
    (accepted : Uri.isLlmWeightsUri run.weightsUri)
    (opened : openSource world run.weightsUri = .ok (uncached formats (saveToDir saveFile dumps tmpdir saved
      (stateDict whole (run.boundary run.shardCount) false) tokenizer)))
    (created : createModule lib.conversions.toConversions (mergeConfig run.config saved)
      (wholeSpec (run.boundary run.shardCount)) = .ok cfg)
    (untied : cfg.tieWordEmbeddings = false)
    (shaped : ∀ q ∈ ownParams (wholeSpec (run.boundary run.shardCount)) false, model.shape (whole q) = paramShape cfg q)
    (positive : 1 ≤ run.shardCount) (first : run.boundary 0 = 0)
    (ordered : ∀ i < run.shardCount, run.boundary i ≤ run.boundary (i + 1))
    (tokenized : promptTokens lib.conversions (run.payload 0 0 .prompt) world
      (uncached formats (saveToDir saveFile dumps tmpdir saved (stateDict whole (run.boundary run.shardCount) false)
        tokenizer)) (mergeConfig run.config saved) = .ok prompt)
    (prompted : prompt ≠ []) :
    ∃ deployed : Deployment F Tensor, deployed.Sound model lib world ∧ deployed.run = run ∧ deployed.cfg = cfg ∧
      deployed.whole = whole ∧ deployed.prompt = prompt := by
  obtain ⟨keys, perm, source⟩ := saved_source dumps tmpdir saved tokenizer weights
  refine ⟨⟨run, _, saved, savedCheckpoint keys whole (run.boundary run.shardCount) false, cfg, whole, prompt⟩,
    ⟨accepted, opened, ?_, source, created, untied, savedCheckpoint_shaped perm untied shaped, ?_, positive, first,
      ordered, tokenized, prompted⟩, rfl, rfl, rfl, rfl⟩
  · simp only [readConfig, read_config, written]
    rfl
  · intro q owned
    simp only [Deployment.layerCount, untied] at owned ⊢
    rw [savedCheckpoint_tensors perm owned]
    rfl

end Loading

/-! ### The model of one layer -/

def tinyWhole : Params (List Int × Int) := fun q => tinyCheckpoint.tensor (hfName q)

/-- The only file lists its keys backwards. -/
def tinyFormats : Formats Int (List Int × Int) where
  loadJson _ := .error "Expecting value: line 1 column 1 (char 0)"
  safeOpen _ := .ok ((stateDict tinyWhole 1 false).map Prod.fst).reverse
  getTensor _ key :=
    match (stateDict tinyWhole 1 false).lookup key with
    | some tensor => .ok tensor
    | none => .error ("File does not contain tensor " ++ key)

theorem tiny_readsBack : ReadsBack tinyFormats [] (stateDict tinyWhole 1 false) where
  keys := ⟨_, rfl, List.reverse_perm _⟩
  tensor := by decide +kernel

theorem saved_model_loads_first : ∃ params loaded,
    loadModule integerSemantics integerConversions (uncached tinyFormats (saveToDir (fun _ => []) (fun _ => []) "/tmp"
        ([] : Dict Int) (stateDict tinyWhole 1 false) none)).toWeightsSource tinyConfig (rangeSpec 0 1 true false)
        (fun _ => ([], 7)) = .ok ⟨tinyParsed, rangeSpec 0 1 true false, params, loaded⟩ ∧
      .embedTokens ∈ loaded ∧ params .embedTokens = ([1, 1], 1) := by
  have within : Within 1 0 1 := ⟨by decide, by decide⟩
  have created : createModule integerConversions tinyConfig (wholeSpec 1) = .ok tinyParsed := rfl
  let sem : Semantics Int (List Int × Int) Int (Kv singleHead Int) Int := integerSemantics
  have shaped : ∀ q ∈ ownParams (wholeSpec 1) tinyParsed.tieWordEmbeddings,
      sem.shape (tinyWhole q) = paramShape tinyParsed q := by decide +kernel
  obtain ⟨params, loaded, ran, values⟩ :=
    saved_model_loads (fun _ => []) (fun _ => []) "/tmp" [] none tiny_readsBack created shaped within fun _ => ([], 7)
  exact ⟨params, loaded, ran, values .embedTokens (by decide)⟩

end ComputeCloudNode.LocalSource
