import ComputeCloudNode.Llm.Executor
import ComputeCloudNode.Llm.FileUri
import ComputeCloudNode.Llm.HfUriRoundTrip
import ComputeCloudNode.Llm.UnloadedWeights

/-! Which parser `_run_shard` calls with the `weights_uri` of a payload. The predicate
that accepted the payload and both parsers strip the URI, the branch between them looks
at it as it is: a `file://` URI with a blank before it goes to the wrong parser. -/
namespace ComputeCloudNode.LLMShardExecutor
open HfUri ModelConfig ModelShard Uri Weights

/-- A call of a parser, with its argument. -/
inductive ParserCall
  | file (uri : String)
  | hf (uri : String)
  deriving DecidableEq

/-- The parser that the branch of `_run_shard` calls. -/
def parserCall (weightsUri : String) : ParserCall :=
  if startsWith weightsUri.toList "file://" then .file weightsUri else .hf weightsUri

variable {V Tensor Row Cache Logits : Type} (world : World V Tensor)

/-- The source that a call of a parser leads to. -/
def ParserCall.source : ParserCall → Except String (ModelSource V Tensor)
  | .file uri => do
    let dirPath ← world.parseFileUri uri
    world.localWeightsSource dirPath
  | .hf uri => do
    let (modelId, revision) ← world.parseHfUri uri
    world.hfWeightsSource modelId revision

theorem openSource_eq (weightsUri : String) : openSource world weightsUri = (parserCall weightsUri).source world := by
  unfold openSource parserCall
  split <;> rfl

variable (conv : PayloadConversions V Row) (payload : ConfigDict V)

/-- The URI that reaches the branch: what is read of the payload before must not raise. -/
def dispatchedUri : Except String String := do
  let weightsUri ← item payload "weights_uri"
  let _ ← payloadConfig conv payload
  let _ ← shardSpec conv payload
  let _ ← getInt conv.toConversions payload ["shard_index"] 0
  return conv.str weightsUri

variable {world conv payload} {uri : String} {cs : List Char}

/-- A parser that refuses the dispatched URI ends the call. -/
theorem buildShard_error {sem : CachedSemantics V Tensor Row Cache Logits} {text : String}
    (dispatched : dispatchedUri conv payload = .ok uri) (refused : (parserCall uri).source world = .error text) :
    buildShard conv payload sem world = .error text := by
  simp only [dispatchedUri, Fallible.bind_eq_ok_iff, Fallible.pure_eq_ok_iff] at dispatched
  obtain ⟨v, found, config, configured, spec, ranged, index, indexed, rfl⟩ := dispatched
  rw [← openSource_eq] at refused
  simp only [buildShard, found, configured, ranged, indexed, refused, Fallible.bind_ok]
  rfl

/-- The URI goes to the parser whose prefix the predicate saw. -/
structure Routed (uri : String) : Prop where
  file : parserCall uri = .file uri ↔ startsWith (strip uri.toList) "file://"
  hf : parserCall uri = .hf uri ↔ startsWith (strip uri.toList) "hf://"

theorem parserCall_file_iff : parserCall uri = .file uri ↔ startsWith uri.toList "file://" := by
  unfold parserCall
  split <;> simp_all

theorem parserCall_hf_iff : parserCall uri = .hf uri ↔ ¬ startsWith uri.toList "file://" := by
  unfold parserCall
  split <;> simp_all

/-! ### Blanks -/

theorem startsWith_file_strip (starts : startsWith cs "file://") : startsWith (strip cs) "file://" := by
  rw [startsWith_iff] at starts ⊢
  obtain ⟨rest, rfl⟩ := starts
  have stripped : strip ("file:/".toList ++ '/' :: rest) = "file:/".toList ++ '/' :: rstrip rest := by
    apply strip_append_cons
    · decide
    · rfl
  exact ⟨rstrip rest, stripped.symm⟩

theorem startsWith_of_strip {lead : String} (unblanked : ∀ c ∈ cs.head?, ¬ isSpace c)
    (starts : startsWith (strip cs) lead) : startsWith cs lead := by
  have kept : cs.dropWhile isSpace = cs := by
    cases cs with
    | nil => rfl
    | cons c rest => exact List.dropWhile_cons_of_neg (unblanked c rfl)
  rw [startsWith_iff] at starts ⊢
  rw [strip, kept] at starts
  exact starts.trans (List.rdropWhile_prefix _ _)

theorem unblanked_of_startsWith (starts : startsWith cs "file://") : ∀ c ∈ cs.head?, ¬ isSpace c := by
  obtain ⟨rest, rfl⟩ := (startsWith_iff _).mp starts
  rintro c found
  cases found
  decide

theorem prefixes_exclusive (file : startsWith cs "file://") (hf : startsWith cs "hf://") : False := by
  obtain ⟨rest, rfl⟩ := (startsWith_iff _).mp file
  cases hf

theorem routed_iff (accepted : isLlmWeightsUri uri) :
    Routed uri ↔ (startsWith (strip uri.toList) "file://" → ∀ c ∈ uri.toList.head?, ¬ isSpace c) := by
  constructor
  · intro routed stripped
    exact unblanked_of_startsWith (parserCall_file_iff.mp (routed.file.mpr stripped))
  · intro unblanked
    have same : startsWith uri.toList "file://" ↔ startsWith (strip uri.toList) "file://" :=
      ⟨startsWith_file_strip, fun stripped => startsWith_of_strip (unblanked stripped) stripped⟩
    refine ⟨parserCall_file_iff.trans same, parserCall_hf_iff.trans ?_⟩
    rw [same]
    constructor
    · intro other
      exact (Bool.or_eq_true_iff.mp accepted).resolve_right other
    · exact fun hf file => prefixes_exclusive file hf

theorem accepted_of_dispatched (task : isLlmShardTask conv payload) (dispatched : dispatchedUri conv payload = .ok uri) :
    isLlmWeightsUri uri := by
  simp only [dispatchedUri, Fallible.bind_eq_ok_iff, Fallible.pure_eq_ok_iff] at dispatched
  obtain ⟨v, found, _, _, _, _, _, _, rfl⟩ := dispatched
  have stored : payload.lookup "weights_uri" = some v := by
    unfold item at found
    split at found
    next w held =>
      cases found
      exact held
    next => cases found
  have accepted := (Bool.and_eq_true_iff.mp task).2
  rwa [stored] at accepted

/-- A payload that was accepted has its URI sent to the parser of its prefix exactly when
no blank stands before a `file://`. -/
theorem weights_uri_routed_iff (task : isLlmShardTask conv payload) :
    (∀ uri, dispatchedUri conv payload = .ok uri → Routed uri) ↔
      ∀ uri, dispatchedUri conv payload = .ok uri → startsWith (strip uri.toList) "file://" →
        ∀ c ∈ uri.toList.head?, ¬ isSpace c :=
  forall₂_congr fun _ dispatched => routed_iff (accepted_of_dispatched task dispatched)

theorem weights_uri_routed_iff_file :
    dispatchedUri Scalar.conversions promptPayload = .ok "file:///weights" ∧ Routed "file:///weights" := by
  have task : isLlmShardTask Scalar.conversions promptPayload := rfl
  refine ⟨rfl, (weights_uri_routed_iff task).mpr ?_ _ rfl⟩
  rintro uri dispatched _ c found
  cases dispatched
  cases found
  decide

/-- The payload of `promptPayload` with a blank before its URI. -/
def blankPayload : ConfigDict Scalar :=
  [("kind", .text "llm_shard"), ("weights_uri", .text " file:///weights"), ("start_layer", .int 0),
    ("end_layer", .int 1), ("is_first", .bool true), ("is_last", .bool true), ("prompt", .text "a")]

/-- `localWorld` with the parsers of the client. -/
def parsingWorld : World Scalar (List Int × Int) :=
  { localWorld tinyCheckpoint with
    parseFileUri := FileUri.parseFileUri Int FileUri.asciiUrls
    parseHfUri := HfUri.parseHfUri Int }

/-- The blank is accepted by the predicate and by the parser for files, which is not called. -/
theorem blank_uri_misrouted :
    isLlmShardTask Scalar.conversions blankPayload ∧
      dispatchedUri Scalar.conversions blankPayload = .ok " file:///weights" ∧
      FileUri.parseFileUri Int FileUri.asciiUrls " file:///weights" = .ok "/weights" ∧
      parserCall " file:///weights" = .hf " file:///weights" ∧ ¬ Routed " file:///weights" ∧
      buildShard Scalar.conversions blankPayload integerCached parsingWorld =
        .error "hf URI must start with 'hf://', got ' file:///weights'" := by
  have dispatched : dispatchedUri Scalar.conversions blankPayload = .ok " file:///weights" := rfl
  have called : parserCall " file:///weights" = .hf " file:///weights" := by
    decide
  have parsed : parseHfUri Int " file:///weights" =
      .error "hf URI must start with 'hf://', got ' file:///weights'" := by
    decide +kernel
  have refused : (parserCall " file:///weights").source parsingWorld =
      .error "hf URI must start with 'hf://', got ' file:///weights'" := by
    rw [called]
    simp only [ParserCall.source, parsingWorld, parsed]
    rfl
  refine ⟨rfl, dispatched, by decide +kernel, called, ?_, ?_⟩
  · intro routed
    have file : parserCall " file:///weights" = .file " file:///weights" := routed.file.mpr (by decide)
    rw [called] at file
    cases file
  · exact buildShard_error dispatched refused

end ComputeCloudNode.LLMShardExecutor
