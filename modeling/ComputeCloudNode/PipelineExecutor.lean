import ComputeCloudNode.Lib.Bytes
import ComputeCloudNode.Lib.Fallible
import ComputeCloudNode.Lib.Sha256
import ComputeCloudNode.Values

/-! The toy model of `pipeline_executor.py`: layers whose parameters come from a hash
of the model's name, a shard that runs a range of layers, and a local runner that
passes the activations from shard to shard. The hash is a parameter; the client
uses SHA-256. -/
namespace ComputeCloudNode.PipelineExecutor
open Fallible

variable {F : Type} (hash : List UInt8 → List UInt8)

/-- `_MODULUS`. -/
def modulus : Int := 1000000007

/-- `_layer_params`: multiplier and bias. -/
def layerParams (modelName : String) (layerIndex : Int) : Int × Int :=
  let digest := hash (s!"{modelName}:{layerIndex}").toUTF8.toList
  (Bytes.ofBig (digest.take 8) % (modulus - 1) + 1, Bytes.ofBig ((digest.drop 8).take 8) % modulus)

/-- `_apply_layer`. -/
def applyLayer (values : List Int) (mult bias : Int) : List Int := values.map fun v => (v * mult + bias) % modulus

/-- `_run_layers`. -/
def runLayers (modelName : String) (startLayer endLayer : Int) (values : List Int) : List Int :=
  (List.range (endLayer - startLayer).toNat).foldl (fun out (i : Nat) =>
    let (mult, bias) := layerParams hash modelName (startLayer + i)
    applyLayer out mult bias) values

/-- `run_reference`. -/
def runReference (modelName : String) (totalLayers : Int) (values : List Int) : List Int :=
  runLayers hash modelName 0 totalLayers values

example : runReference Sha256.digest "toy" 2 [5, -3] = [719227808, 554759087] := by decide +kernel

/-- The dict that `PipelineShardExecutor.execute` returns. -/
structure ShardOutput where
  outputActivations : List Int
  shardIndex : Int
  isFinal : Bool
  deriving DecidableEq

/-- `payload.get(key)`, when it is not `None`. -/
def getValue (payload : Dict F) (key : String) : Option (Value F) := (payload.lookup key).filter fun v => !v.isNone

/-- Two fields that have to be there, as integers. -/
def requireInts [PyRuntime F] (payload : Dict F) (first second : String) (missing : String) :
    Except String (Int × Int) :=
  match getValue payload first, getValue payload second with
  | some v, some w => do return (← v.toInt, ← w.toInt)
  | _, _ => .error missing

/-- The list of integers under `input_activations`. -/
def inputActivations (payload : Dict F) : Except String (List Int) :=
  match payload.lookup "input_activations" with
  | some (.list inputs) =>
    match inputs.mapM Value.asInt with
    | some numbers => .ok numbers
    | none => .error "PipelineShardExecutor 'input_activations' must be all ints"
  | _ => .error "PipelineShardExecutor payload must contain 'input_activations' as a list of integers"

/-- `PipelineShardExecutor.execute`. -/
def execute [PyRuntime F] (payload : Option (Dict F)) : Except String ShardOutput := do
  let some payload := payload | throw "PipelineShardExecutor requires a payload with shard fields"
  let some modelName := (payload.lookup "model_name").filter Value.truthy
    | throw "PipelineShardExecutor payload must contain 'model_name'"
  let (startLayer, endLayer) ← requireInts payload "start_layer" "end_layer"
    "PipelineShardExecutor payload must contain 'start_layer' and 'end_layer'"
  let (shardIndex, shardCount) ← requireInts payload "shard_index" "shard_count"
    "PipelineShardExecutor payload must contain 'shard_index' and 'shard_count'"
  let inputs ← inputActivations payload
  if startLayer < 0 ∨ endLayer < startLayer then
    throw s!"PipelineShardExecutor invalid layer range [{startLayer}, {endLayer})"
  return { outputActivations := runLayers hash modelName.text startLayer endLayer inputs
           shardIndex
           isFinal := shardIndex = shardCount - 1 }

/-! ### The local runner -/

/-- `int(p.get(key, -1))`. -/
def numbered [PyRuntime F] (payload : Dict F) (key : String) : Except String Int :=
  ((payload.lookup key).getD (.int (-1))).toInt

/-- `repr(p.get(key))`. -/
def reprField [PyRuntime F] (payload : Dict F) (key : String) : String :=
  ((payload.lookup key).getD .null).repr

/-- The shards must be in order. -/
def checkOrder [PyRuntime F] (count : Nat) : Nat → List (Dict F) → Except String Unit
  | _, [] => .ok ()
  | i, payload :: rest => do
    if (← numbered payload "shard_index") ≠ i then
      throw (s!"LocalPipelineRunner shards must be ordered 0..N-1; shard at position {i} has " ++
        "shard_index=" ++ reprField payload "shard_index")
    if (← numbered payload "shard_count") ≠ count then
      throw (s!"LocalPipelineRunner shard_count mismatch: shard {i} reports " ++
        "shard_count=" ++ reprField payload "shard_count" ++ s!" but received {count} payloads")
    checkOrder count (i + 1) rest

/-- The loop of `LocalPipelineRunner.run` over the shards, with the positions of the
shards it executed. The default executor always returns a dict with activations. -/
def runShards [PyRuntime F] :
    Nat → List (Dict F) → List Int → Option ShardOutput → List Nat × Except String ShardOutput
  | _, [], _, lastOutput => ([], lastOutput.elim (.error "") .ok)
  | i, payload :: rest, activations, _ =>
    match execute hash (some (Dicts.set "input_activations" (.ofInts activations) payload)) with
    | .error text => ([i], .error text)
    | .ok out =>
      let (executed, result) := runShards (i + 1) rest out.outputActivations (some out)
      (i :: executed, result)

/-- `LocalPipelineRunner().run`: the positions of the executed shards, and the result. -/
def run [PyRuntime F] (shardPayloads : List (Dict F)) (initialInput : List Int) :
    List Nat × Except String ShardOutput :=
  if shardPayloads.isEmpty then ([], .error "LocalPipelineRunner requires at least one shard payload")
  else
    match checkOrder shardPayloads.length 0 shardPayloads with
    | .error text => ([], .error text)
    | .ok () => runShards hash 0 shardPayloads initialInput none

/-! ### Layer ranges -/

variable {hash} {modelName : String} {values : List Int}

@[simp] theorem runLayers_self (layer : Int) : runLayers hash modelName layer layer values = values := by
  simp [runLayers]

/-- Layer ranges that meet are run one after the other. -/
theorem runLayers_append {start middle stop : Int} (first : start ≤ middle) (second : middle ≤ stop) :
    runLayers hash modelName middle stop (runLayers hash modelName start middle values) =
      runLayers hash modelName start stop values := by
  have split : (stop - start).toNat = (middle - start).toNat + (stop - middle).toNat := by
    omega
  have shifted : ∀ i : Nat, middle + i = start + ((middle - start).toNat + i : Nat) := by
    intro i
    omega
  unfold runLayers
  rw [split, List.range_add, List.foldl_append, List.foldl_map]
  simp only [shifted]

/-! ### A shard -/

/-- A payload for a range of layers, with the fields of the payload contract. -/
structure ShardPayload (modelName : String) (startLayer endLayer shardIndex shardCount : Int) (payload : Dict F) :
    Prop where
  model : payload.lookup "model_name" = some (.str modelName)
  start : payload.lookup "start_layer" = some (.int startLayer)
  stop : payload.lookup "end_layer" = some (.int endLayer)
  index : payload.lookup "shard_index" = some (.int shardIndex)
  count : payload.lookup "shard_count" = some (.int shardCount)

theorem mapM_asInt (numbers : List Int) : (numbers.map (Value.int (F := F))).mapM Value.asInt = some numbers := by
  induction numbers with
  | nil => rfl
  | cons n rest ih => simp [ih]

theorem inputActivations_ok {numbers : List Int} {payload : Dict F}
    (given : payload.lookup "input_activations" = some (.ofInts numbers)) : inputActivations payload = .ok numbers := by
  unfold inputActivations
  rw [given, Value.ofInts]
  simp only [mapM_asInt]

theorem requireInts_ok [PyRuntime F] {payload : Dict F} {first second missing : String} {m n : Int}
    (here : payload.lookup first = some (.int m)) (there : payload.lookup second = some (.int n)) :
    requireInts payload first second missing = .ok (m, n) := by
  rw [requireInts, getValue, getValue, here, there]
  rfl

variable (hash values) in
/-- A shard runs its layers on the activations it is given. -/
theorem execute_shard [PyRuntime F] {startLayer endLayer shardIndex shardCount : Int} {payload : Dict F}
    (shard : ShardPayload modelName startLayer endLayer shardIndex shardCount payload) (named : modelName ≠ "")
    (natural : 0 ≤ startLayer) (ordered : startLayer ≤ endLayer) :
    execute hash (some (Dicts.set "input_activations" (.ofInts values) payload)) =
      .ok { outputActivations := runLayers hash modelName startLayer endLayer values
            shardIndex
            isFinal := shardIndex = shardCount - 1 } := by
  have field : ∀ {key v}, payload.lookup key = some v → key ≠ "input_activations" →
      (Dicts.set "input_activations" (.ofInts values) payload).lookup key = some v := by
    intro key v found other
    rw [Dicts.lookup_set_ne other, found]
  have kept : (some (.str modelName : Value F)).filter Value.truthy = some (.str modelName) :=
    Option.filter_some_pos (decide_eq_true named)
  have range : ¬ (startLayer < 0 ∨ endLayer < startLayer) := by
    omega
  unfold execute
  simp only [field shard.model (by decide), kept,
    requireInts_ok (field shard.start (by decide)) (field shard.stop (by decide)),
    requireInts_ok (field shard.index (by decide)) (field shard.count (by decide)),
    inputActivations_ok (Dicts.lookup_set_self _ _ payload), if_neg range,
    bind, Except.bind]
  rfl

/-- What a shard that returned has computed, whatever else its payload holds. -/
theorem execute_output [PyRuntime F] {startLayer endLayer : Int} {payload : Dict F} {out : ShardOutput}
    (model : payload.lookup "model_name" = some (.str modelName))
    (start : payload.lookup "start_layer" = some (.int startLayer))
    (stop : payload.lookup "end_layer" = some (.int endLayer)) (given : inputActivations payload = .ok values)
    (ran : execute hash (some payload) = .ok out) :
    0 ≤ startLayer ∧ startLayer ≤ endLayer ∧
      out.outputActivations = runLayers hash modelName startLayer endLayer values := by
  unfold execute at ran
  simp only [model, requireInts_ok start stop, given] at ran
  split at ran
  next name kept =>
    cases (Option.filter_eq_some_iff.mp kept).1
    simp only [bind_eq_ok_iff, Except.ok.injEq] at ran
    obtain ⟨_, rfl, numbers, _, _, rfl, ran⟩ := ran
    by_cases range : startLayer < 0 ∨ endLayer < startLayer
    · rw [if_pos range] at ran
      cases ran
    · rw [if_neg range, pure_eq_ok_iff] at ran
      rw [← ran]
      exact ⟨by omega, by omega, rfl⟩
  next => cases ran

end ComputeCloudNode.PipelineExecutor
