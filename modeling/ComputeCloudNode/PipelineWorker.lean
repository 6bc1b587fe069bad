import ComputeCloudNode.ExchangeWorker
import ComputeCloudNode.PipelineExecutor

/-! `PipelineShardWorker`: the shard worker of the toy pipeline. Its input and output
are activations, and it calls no executor of the node.

Left out: a `shard_spec` that is a list of pairs, which `dict` would take as well. -/
namespace ComputeCloudNode.PipelineWorker
open ExchangeWorker PipelineExecutor

variable {F : Type}

/-- What `execute_shard` reads of its payload before it polls. -/
structure ShardTask (F : Type) where
  runId : Value F
  shardIndex : Int
  shardCount : Int
  shardSpec : Dict F

/-- `payload[key]`. -/
def item (payload : Dict F) (key : String) : Except String (Value F) :=
  match payload.lookup key with
  | some v => .ok v
  | none => .error s!"'{key}'"

section

variable [PyRuntime F]

/-- `dict(payload.get("shard_spec") or {})`. -/
def readSpec (payload : Dict F) : Except String (Dict F) :=
  match (payload.lookup "shard_spec").filter Value.truthy with
  | none => .ok []
  | some (.dict spec) => .ok spec
  | some v => .error s!"'{v.typeName}' object is not iterable"

/-- The first lines of `execute_shard`. -/
def readTask (payload : Dict F) : Except String (ShardTask F) := do
  let runId ← item payload "pipeline_run_id"
  let shardIndex ← (← item payload "shard_index").toInt
  let shardCount ← (← item payload "shard_count").toInt
  let shardSpec ← readSpec payload
  return { runId, shardIndex, shardCount, shardSpec }

/-- `run_id[:8]` within a text. -/
def runText : Value F → Except String String
  | .str s => .ok (String.ofList (s.toList.take 8))
  | .list items => .ok (Value.list (items.take 8)).repr
  | .dict _ => .error "unhashable type: 'slice'"
  | v => .error s!"'{v.typeName}' object is not subscriptable"

/-- The text of an exception that names the run. -/
def aboutRun (runId : Value F) (text : String → String) : String :=
  match runText runId with
  | .ok run => text run
  | .error raised => raised

/-- `[int(v) for v in acts]` if `data["activations"]` is a list. -/
def readActivations : Value F → Reading (List Int)
  | .dict data =>
    match data.lookup "activations" with
    | some (.list acts) =>
      match acts.mapM Value.toInt with
      | .ok numbers => .input numbers
      | .error text => .raised text
    | _ => .notReady
  | v => .raised s!"'{v.typeName}' object has no attribute 'get'"

/-- The payload of the shard executor. -/
def stepPayload (task : ShardTask F) (activations : List Int) : Dict F :=
  Dicts.setDefault "shard_count" (.int task.shardCount) (Dicts.setDefault "shard_index" (.int task.shardIndex)
    (Dicts.set "input_activations" (.ofInts activations) task.shardSpec))

/-- `str` of a status that there may not be. -/
def statusText (lastStatus : Option Nat) : String := lastStatus.elim "None" toString

/-- The worker of a task, with the text of its timeout. -/
def worker (hash : List UInt8 → List UInt8) (pollTimeout : String) (task : ShardTask F) :
    Protocol F (List Int) (List Int) Empty where
  read := readActivations
  compute activations := ([], (execute hash (some (stepPayload task activations))).map ShardOutput.outputActivations)
  body output := .dict [("activations", .ofInts output)]
  logPollFailed :=
    match runText task.runId with
    | .ok _ => none
    | .error raised => some raised
  timedOut lastStatus := aboutRun task.runId fun run =>
    s!"PipelineShardWorker: input for run {run} shard {task.shardIndex} never became ready within " ++
      s!"{pollTimeout}s (last status {statusText lastStatus})"
  postFailed text := aboutRun task.runId fun run =>
    s!"PipelineShardWorker: failed to post output for run {run} shard {task.shardIndex} after 3 attempts: {text}"
  postReturned lastStatus := aboutRun task.runId fun run =>
    s!"PipelineShardWorker: post output for run {run} shard {task.shardIndex} returned {statusText lastStatus}"

/-- What `execute_shard` returns. -/
def result (task : ShardTask F) (outputActivations : List Int) : ShardOutput where
  outputActivations
  shardIndex := task.shardIndex
  isFinal := task.shardIndex = task.shardCount - 1

/-! ### A coordinator's task -/

/-- The task of a shard as the coordinator makes it. -/
structure ShardTaskPayload (modelName : String) (startLayer endLayer shardIndex : Int) (payload : Dict F) : Prop where
  index : payload.lookup "shard_index" = some (.int shardIndex)
  spec : ∃ spec, payload.lookup "shard_spec" = some (.dict spec) ∧
    spec.lookup "model_name" = some (.str modelName) ∧ spec.lookup "start_layer" = some (.int startLayer) ∧
    spec.lookup "end_layer" = some (.int endLayer)

variable {modelName : String} {startLayer endLayer shardIndex : Int} {payload : Dict F} {task : ShardTask F}

theorem readTask_ok (shard : ShardTaskPayload modelName startLayer endLayer shardIndex payload)
    (read : readTask payload = .ok task) :
    task.shardIndex = shardIndex ∧ task.shardSpec.lookup "model_name" = some (.str modelName) ∧
      task.shardSpec.lookup "start_layer" = some (.int startLayer) ∧
      task.shardSpec.lookup "end_layer" = some (.int endLayer) := by
  obtain ⟨spec, given, model, start, stop⟩ := shard.spec
  have nonempty : spec ≠ [] := by
    rintro rfl
    cases model
  have kept : (some (.dict spec : Value F)).filter Value.truthy = some (.dict spec) :=
    Option.filter_some_pos (by simpa [Value.truthy] using nonempty)
  have specified : readSpec payload = .ok spec := by
    simp only [readSpec, given, kept]
  have indexed : item payload "shard_index" = .ok (.int shardIndex) := by
    rw [item, shard.index]
  simp only [readTask, indexed, specified, Fallible.bind_eq_ok_iff, Fallible.pure_eq_ok_iff,
    Except.ok.injEq] at read
  obtain ⟨_, _, _, rfl, _, same, _, _, _, _, _, rfl, rfl⟩ := read
  exact ⟨(Except.ok.inj same).symm, model, start, stop⟩

/-- What the worker computes of its input. -/
theorem worker_compute {hash : List UInt8 → List UInt8} {pollTimeout : String} {activations output : List Int}
    (shard : ShardTaskPayload modelName startLayer endLayer shardIndex payload) (read : readTask payload = .ok task)
    (computed : ((worker hash pollTimeout task).compute activations).2 = .ok output) :
    0 ≤ startLayer ∧ startLayer ≤ endLayer ∧ output = runLayers hash modelName startLayer endLayer activations := by
  obtain ⟨_, model, start, stop⟩ := readTask_ok shard read
  have kept : ∀ {key v}, task.shardSpec.lookup key = some v → key ≠ "input_activations" → key ≠ "shard_index" →
      key ≠ "shard_count" → (stepPayload task activations).lookup key = some v := by
    intro key v found other other' other''
    rw [stepPayload, Dicts.lookup_setDefault_ne other'', Dicts.lookup_setDefault_ne other',
      Dicts.lookup_set_ne other, found]
  have given : (stepPayload task activations).lookup "input_activations" = some (.ofInts activations) := by
    rw [stepPayload, Dicts.lookup_setDefault_ne (by decide), Dicts.lookup_setDefault_ne (by decide),
      Dicts.lookup_set_self]
  have mapped : (execute hash (some (stepPayload task activations))).map ShardOutput.outputActivations = .ok output :=
    computed
  cases ran : execute hash (some (stepPayload task activations)) with
  | error text =>
    rw [ran] at mapped
    cases mapped
  | ok out =>
    rw [ran] at mapped
    cases mapped
    exact execute_output (kept model (by decide) (by decide) (by decide)) (kept start (by decide) (by decide) (by decide))
      (kept stop (by decide) (by decide) (by decide)) (inputActivations_ok given) ran

end

end ComputeCloudNode.PipelineWorker
