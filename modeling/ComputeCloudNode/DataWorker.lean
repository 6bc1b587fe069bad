import ComputeCloudNode.ExchangeWorker
import ComputeCloudNode.NodeExecutors
import ComputeCloudNode.PipelineExecutor
import ComputeCloudNode.PipelineWorker

/-! `DataShardWorker`: a shard worker that runs a range of layers, a command by the
executor it was built with, a merge, or nothing at all on its input.

Left out: a `shard_spec` of a model shard that is a list of pairs, which `dict` would
take as well. -/
namespace ComputeCloudNode.DataWorker
open ExchangeWorker NodeExecutors PipelineExecutor PipelineWorker Uri

variable {F L : Type}

/-- A call of the executor, with the file that its command may read. -/
structure Invocation (F : Type) where
  taskId : String
  jobId : Value F
  command : String
  inputPath : String
  inputText : String

/-- The payload that the executor is given. -/
def Invocation.payload (invocation : Invocation F) : Dict F := [("command", .str invocation.command)]

/-- `execute` of the user's executor; `None` is `null`. -/
abbrev BaseExecutor (F : Type) := Invocation F → Except String (Value F)

/-- What a worker reads of its payload before it polls. -/
structure ShardTask (F : Type) where
  runId : Value F
  shardIndex : Int
  shardCount : Int
  topology : Value F
  isMerge : Bool
  payload : Dict F

/-- `payload.get(key) == text`. -/
def hasText (payload : Dict F) (key text : String) : Bool :=
  match payload.lookup key with
  | some (.str s) => s = text
  | _ => false

/-- `s.replace("{input_file}", path)`: `skip` characters of a match are still to be
passed over. -/
def replaceInputFile (path : List Char) : Nat → List Char → List Char
  | _, [] => []
  | skip + 1, _ :: rest => replaceInputFile path skip rest
  | 0, c :: rest =>
    let pattern := "\x7binput_file\x7d".toList
    if pattern.isPrefixOf (c :: rest) then path ++ replaceInputFile path (pattern.length - 1) rest
    else c :: replaceInputFile path 0 rest

section

variable [PyRuntime F]

def readTask (payload : Dict F) : Except String (ShardTask F) := do
  let runId ← item payload "data_run_id"
  let shardIndex ← (← item payload "shard_index").toInt
  let shardCount ← ((payload.lookup "shard_count").getD (.int 0)).toInt
  return { runId, shardIndex, shardCount, topology := (payload.lookup "topology").getD (.str "parallel")
           isMerge := hasText payload "kind" "data_merge", payload }

/-- `payload.get("shard_spec") or {}`. -/
def shardSpec (payload : Dict F) : Value F := ((payload.lookup "shard_spec").filter Value.truthy).getD (.dict [])

/-- `"start_layer" in spec`. -/
def hasStartLayer : Value F → Except String Bool
  | .dict spec => .ok (spec.lookup "start_layer").isSome
  | .list items => .ok (items.any fun
    | .str s => s = "start_layer"
    | _ => false)
  | .str s => .ok (s.toList.tails.any fun rest => startsWith rest "start_layer")
  | v => .error s!"argument of type '{v.typeName}' is not iterable"

/-- The toy transform of a model shard. -/
def runModelShard (hash : List UInt8 → List UInt8) (spec : Value F) (inputData : Value F) (payload : Dict F) :
    Except String (Value F) := do
  let .dict spec := spec | throw s!"cannot convert '{spec.typeName}' object to a dictionary"
  let numbers ← match inputData with
    | .list items => pure (.list items)
    | v => do pure (.list [.int (← v.toInt)])
  let stepPayload := Dicts.set "input_activations" numbers
    (Dicts.set "shard_count" ((payload.lookup "shard_count").getD (.int 1))
      (Dicts.set "shard_index" ((payload.lookup "shard_index").getD (.int 0)) spec))
  let out ← execute hash (some stepPayload)
  return .ofInts out.outputActivations

/-- `spec.get("command") or payload.get("command")`. -/
def commandOf (spec : Value F) (payload : Dict F) : Except String (Value F) :=
  match spec with
  | .dict spec =>
    match (spec.lookup "command").filter Value.truthy with
    | some command => .ok command
    | none => .ok ((payload.lookup "command").getD .null)
  | v => .error s!"'{v.typeName}' object has no attribute 'get'"

/-- What `_run_command_shard` writes to the input file. -/
def fileText : Value F → String
  | .str s => s
  | .list items => "\n".intercalate (items.map Value.text)
  | v => v.text

/-- What `_run_command_shard` makes of the executor's result. -/
def commandOutput : Value F → Value F
  | .dict [] => .str (Value.dict ([] : Dict F)).text
  | .dict result => (result.lookup "stdout").getD (.str (Value.dict result).text)
  | v => .str v.text

/-- `_run_command_shard`. `createFile` is the temporary file with a text, by its path. -/
def runCommandShard (executor : BaseExecutor F) (createFile : String → Except String String) (command : Value F)
    (inputData : Value F) (payload : Dict F) : List (Invocation F) × Except String (Value F) :=
  match createFile (fileText inputData) with
  | .error text => ([], .error text)
  | .ok inputPath =>
    match command with
    | .str command =>
      let invocation := {
        taskId := "data-shard-" ++ ((payload.lookup "shard_index").getD (.int 0)).text
        jobId := (payload.lookup "job_id").getD (.str "data-run")
        command := String.ofList (replaceInputFile inputPath.toList 0 command.toList)
        inputPath
        inputText := fileText inputData }
      ([invocation], (executor invocation).map commandOutput)
    | v => ([], .error s!"'{v.typeName}' object has no attribute 'replace'")

/-- `_compute_shard`. -/
def computeShard (hash : List UInt8 → List UInt8) (createFile : String → Except String String)
    (executor : Option (BaseExecutor F)) (inputData : Value F) (payload : Dict F) :
    List (Invocation F) × Except String (Value F) :=
  let spec := shardSpec payload
  match if hasText payload "workload_type" "model_sharding" then .ok true else hasStartLayer spec with
  | .error text => ([], .error text)
  | .ok true => ([], runModelShard hash spec inputData payload)
  | .ok false =>
    match commandOf spec payload with
    | .error text => ([], .error text)
    | .ok command =>
      match command.truthy, executor with
      | true, some executor => runCommandShard executor createFile command inputData payload
      | _, _ => ([], .ok inputData)

omit [PyRuntime F] in
/-- The number if `isinstance(v, (int, float))`. -/
def asNumber : Value F → Option (Int ⊕ F)
  | .float x => some (.inr x)
  | v => v.asInt.map .inl

omit [PyRuntime F] in
def asList : Value F → Option (List (Value F))
  | .list items => some items
  | _ => none

omit [PyRuntime F] in
def asText : Value F → Option String
  | .str s => some s
  | _ => none

omit [PyRuntime F] in
def asInteger : Int ⊕ F → Option Int
  | .inl n => some n
  | .inr _ => none

/-- `sum` of numbers. -/
def sumNumbers (numbers : List (Int ⊕ F)) : Value F :=
  match numbers.mapM asInteger with
  | some integers => .int (integers.foldl (· + ·) 0)
  | none => .float (PyRuntime.sum numbers)

/-- `_compute_merge`. -/
def computeMerge : Value F → Value F
  | .list items =>
    match items.mapM asList, items.mapM asNumber, items.mapM asText with
    | some lists, _, _ => .list lists.flatten
    | _, some numbers, _ => sumNumbers numbers
    | _, _, some texts => .str ("\n".intercalate texts)
    | _, _, _ => .list items
  | v => v

/-- The worker of a task, with the text of its timeout. -/
def worker (hash : List UInt8 → List UInt8) (createFile : String → Except String String) (pollTimeout : String)
    (executor : Option (BaseExecutor F)) (task : ShardTask F) : Protocol F (Value F) (Value F) (Invocation F) where
  read
    | .dict data => .input ((data.lookup "data").getD .null)
    | v => .raised s!"'{v.typeName}' object has no attribute 'get'"
  compute inputData :=
    if task.isMerge then ([], .ok (computeMerge inputData))
    else computeShard hash createFile executor inputData task.payload
  body output := .dict [("data", output)]
  logPollFailed := none
  timedOut lastStatus := aboutRun task.runId fun run =>
    s!"DataShardWorker: input for run {run} shard {task.shardIndex} never became ready within " ++
      s!"{pollTimeout}s (last {statusText lastStatus})"
  postFailed text := s!"DataShardWorker: post failed: {text}"
  postReturned lastStatus := s!"DataShardWorker: post returned {statusText lastStatus}"

/-- The dict that `execute_shard` returns. -/
def result (task : ShardTask F) (output : Value F) : Dict F :=
  [("output", output), ("shard_index", .int task.shardIndex), ("shard_count", .int task.shardCount),
    ("topology", task.topology), ("is_merge", .bool task.isMerge)]

/-! ### A finished call -/

/-- What a finished call of the node's executor did: its calls of the user's executor,
the bodies it posted, and how it ended. -/
structure Execution (F : Type) where
  calls : List (Invocation F)
  posts : List (Value F)
  outcome : Except String (Dict F)

omit [PyRuntime F] in
def Execution.raised (text : String) : Execution F := ⟨[], [], .error text⟩

/-- `execute_shard`, answered by these moves up to its end. -/
def executeShard (hash : List UInt8 → List UInt8) (createFile : String → Except String String) (pollTimeout : String)
    (dataWorker : DataShardWorker (BaseExecutor F)) (payload : Dict F) (moves : List (Move F)) : Option (Execution F) :=
  match readTask payload with
  | .error text => if moves.isEmpty then some (.raised text) else none
  | .ok task => do
    let (pc, events) ← Runs.run (step (worker hash createFile pollTimeout dataWorker.executor task)) (.polling none) moves
    match pc with
    | .returned output => some ⟨calls events, posts events, .ok (result task output)⟩
    | .raised text => some ⟨calls events, posts events, .error text⟩
    | _ => none

/-- A task that the node routes to its data worker. -/
def executeTask (hash : List UInt8 → List UInt8) (createFile : String → Except String String) (pollTimeout : String)
    (node : ComputeNode (BaseExecutor F) L) (taskId : String) (payload : Dict F) (moves : List (Move F)) :
    Option (Execution F) := do
  match route taskId (some payload) (← node.executor) with
  | .dataWorker dataWorker => executeShard hash createFile pollTimeout dataWorker payload moves
  | _ => none

end

end ComputeCloudNode.DataWorker
