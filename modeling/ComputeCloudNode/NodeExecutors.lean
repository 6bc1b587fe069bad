import ComputeCloudNode.Values

/-! The executors of a `ComputeNode`: the one the user supplies and the one that
registration wraps around it, which routes the tasks of shards to the workers of
the node. The user's executor and the LLM executor are parameters. -/
namespace ComputeCloudNode.NodeExecutors

variable {E L F : Type}

/-- `DataShardWorker`, as far as its constructor sets it. -/
structure DataShardWorker (E : Type) where
  executor : Option E := none
  deriving DecidableEq

/-- `PipelineShardWorker`, which keeps its default executor. -/
structure PipelineShardWorker where
  deriving DecidableEq

/-- What a node's `_executor` can be. -/
inductive TaskExecutor (E L : Type)
  | base (executor : E)
  | dataShardAware (dataWorker : DataShardWorker E) (pipelineWorker : Option PipelineShardWorker) (fallback : Option E)
    (llmExecutor : Option L)
  deriving DecidableEq

/-- The fields of a `ComputeNode` that have to do with executors. -/
structure ComputeNode (E L : Type) where
  executor : Option (TaskExecutor E L)
  baseExecutor : Option E
  enablePipeline : Bool
  useHttp : Bool
  shardWorker : Option PipelineShardWorker := none
  dataWorker : Option (DataShardWorker E) := none
  deriving DecidableEq

/-- `ComputeNode.__init__`. -/
def new (executor : Option E) (enablePipeline useHttp : Bool) : ComputeNode E L where
  executor := executor.map .base
  baseExecutor := executor
  enablePipeline
  useHttp

/-- `set_executor`. -/
def setExecutor (node : ComputeNode E L) (executor : E) : ComputeNode E L :=
  { node with executor := some (.base executor), baseExecutor := some executor }

/-- The wiring in `_connect_and_register`. The LLM executor is there when its probe
succeeds. -/
def connectAndRegister (node : ComputeNode E L) (llmExecutor : Option L) : ComputeNode E L :=
  if node.enablePipeline && node.useHttp then
    let dataWorker : DataShardWorker E := {}
    let shardWorker : PipelineShardWorker := {}
    { node with
      dataWorker := some dataWorker
      shardWorker := some shardWorker
      executor := some (.dataShardAware dataWorker (some shardWorker) node.baseExecutor llmExecutor) }
  else node

/-- Who executes a task. -/
inductive Route (E L : Type)
  | dataWorker (worker : DataShardWorker E)
  | llmExecutor (executor : L)
  | pipelineWorker (worker : PipelineShardWorker)
  | executor (executor : E)
  | rejected (text : String)
  deriving DecidableEq

/-- `payload.get("kind") == kind`, of a payload that is a dict. -/
def hasKind (payload : Option (Dict F)) (kind : String) : Bool :=
  match payload.bind fun payload => payload.lookup "kind" with
  | some (.str s) => s = kind
  | _ => false

/-- `is_data_shard_task`. -/
def isDataShardTask (payload : Option (Dict F)) : Bool := hasKind payload "data_shard" || hasKind payload "data_merge"

/-- `execute` of a node's executor, up to the call it delegates to. -/
def route (taskId : String) (payload : Option (Dict F)) : TaskExecutor E L → Route E L
  | .base executor => .executor executor
  | .dataShardAware dataWorker pipelineWorker fallback llmExecutor =>
    if isDataShardTask payload then .dataWorker dataWorker
    else if hasKind payload "llm_shard" then
      match llmExecutor with
      | some executor => .llmExecutor executor
      | none => .rejected (s!"DataShardAwareExecutor: LLM shard task {taskId} received " ++
          "but no LLM executor was configured")
    else if hasKind payload "pipeline_shard" then
      match pipelineWorker with
      | some worker => .pipelineWorker worker
      | none => .rejected (s!"DataShardAwareExecutor: pipeline shard task {taskId} received " ++
          "but no pipeline worker was configured")
    else
      match fallback with
      | some executor => .executor executor
      | none => .rejected (s!"DataShardAwareExecutor: non-shard task {taskId} received but no " ++
          "fallback executor was configured")

end ComputeCloudNode.NodeExecutors
