import ComputeCloudNode.DataWorker
import ComputeCloudNode.TaskSlots
import ComputeCloudNode.TemplateJobs

/-! The processes that the tasks of a node start. `_resolve_executor` builds the executor
that the command line names, and registration wraps it so that shards go to the workers
of the node. Whether a task runs in the shell of the host or in a container is up to the
name of the executor and to the image in the payload.

The LLM executor and the pipeline worker start no processes. Left out: what is printed. -/
namespace ComputeCloudNode.NodeProcesses
open ExchangeWorker LocalExecutor NodeExecutors TaskLoop TemplateJobs

variable {F L R : Type}

/-- A process that is started on the node, with its timeout. -/
inductive Process (F : Type)
  | host (request : LocalExecutor.Request F)
  | docker (dockerCmd : List String) (timeout : F)

/-- A call of `execute`; a payload that is `None` is `null`. -/
structure Call (F : Type) where
  taskId : String
  jobId : Value F
  payload : Value F

/-- What surrounds one call: the host, the Docker CLI, and the exchange with its answers. -/
structure Machine (F : Type) where
  host : Host F
  cli : DockerCli F
  hash : List UInt8 → List UInt8 := id
  createFile : String → Except String String
  pollTimeout : String := "60.0"
  exchange : List (Move F) := []

/-- `execute` of an executor, with the processes that it starts. -/
abbrev Executor (F : Type) := Machine F → Call F → List (Process F) × Except String (Value F)

/-- What `_resolve_executor` depends on. -/
structure Startup (F : Type) where
  /-- `DockerExecutor.is_docker_available()`. -/
  dockerAvailable : Bool
  /-- The default timeouts, 300.0 and 600.0. -/
  localTimeout : F
  dockerTimeout : F
  /-- Imports a module and instantiates one of its attributes. -/
  load : String → String → Except String (Executor F)

/-! ### The executors -/

section Executors

variable [PyRuntime F] [PyFloat F]

/-- What `LocalProcessExecutor.execute` hands to `subprocess.run`. -/
def hostRequest (host : Host F) (executor : LocalProcessExecutor F) (payload : Value F) :
    Except String (LocalExecutor.Request F) := do
  let command ← LocalExecutor.extractCommand payload
  let timeout ← LocalExecutor.extractTimeout executor payload
  let arguments ← arguments host executor command
  return { arguments, timeout, workingDirectory := executor.workingDirectory }

/-- The request is all that `LocalProcessExecutor.execute` asks of the host. -/
theorem execute_hostRequest (host : Host F) (executor : LocalProcessExecutor F) (payload : Value F) :
    LocalExecutor.execute host executor payload = (do
      let command ← LocalExecutor.extractCommand payload
      let request ← hostRequest host executor payload
      let result ← LocalExecutor.commandResult host request.timeout (host.run request)
      return [("command", .str command), ("return_code", .int result.returnCode), ("stdout", .str result.stdout),
        ("stderr", .str result.stderr)]) := by
  unfold LocalExecutor.execute hostRequest LocalExecutor.run
  cases LocalExecutor.extractCommand payload with
  | error text => rfl
  | ok command =>
    cases LocalExecutor.extractTimeout executor payload with
    | error text => rfl
    | ok timeout =>
      simp only [Fallible.bind_ok]
      cases arguments host executor command <;> rfl

/-- `LocalProcessExecutor.execute`. -/
def runLocal (executor : LocalProcessExecutor F) : Executor F := fun machine call =>
  ((hostRequest machine.host executor call.payload).toOption.toList.map .host,
    (LocalExecutor.execute machine.host executor call.payload).map .dict)

/-- `DockerExecutor.execute`. -/
def runDocker (executor : DockerExecutor F) : Executor F := fun machine call =>
  ((request executor machine.cli.path call.payload).toOption.toList.map fun requested =>
      .docker requested.dockerCmd requested.timeout,
    (TemplateJobs.execute machine.host machine.cli executor call.payload).map .dict)

omit [PyFloat F] in
/-- `payload and payload.get("image")`, unless it is false. -/
def namedImage (payload : Value F) : Except String (Option (Value F)) :=
  if payload.truthy then
    match payload with
    | .dict items => .ok ((items.lookup "image").filter Value.truthy)
    | v => .error s!"'{v.typeName}' object has no attribute 'get'"
  else .ok none

/-- `_Auto.execute`. -/
def runAuto (executor : LocalProcessExecutor F) (docker : Option (DockerExecutor F)) : Executor F :=
  fun machine call =>
    match namedImage call.payload with
    | .error text => ([], .error text)
    | .ok none => runLocal executor machine call
    | .ok (some image) =>
      match docker with
      | none => ([], .error s!"This node has no Docker -- cannot run template job with image {image.repr}")
      | some docker => runDocker docker machine call

/-- `name.rpartition(".")`, of a name with a dot. -/
def rpartition (name : String) : String × String :=
  let parts := name.toList.splitOn '.'
  (String.ofList (['.'].intercalate parts.dropLast), String.ofList (parts.getLastD []))

/-- `_resolve_executor`. -/
def resolveExecutor (startup : Startup F) (name : String) : Except String (Executor F) :=
  let local_ : LocalProcessExecutor F := { defaultTimeoutSeconds := startup.localTimeout }
  let docker : DockerExecutor F := { defaultTimeoutSeconds := startup.dockerTimeout }
  if name = "echo" then .ok fun _ call => ([], .ok (.dict [("echo", call.payload)]))
  else if name = "local" then .ok (runLocal local_)
  else if name = "docker" then
    if startup.dockerAvailable then .ok (runDocker docker)
    else .error ("Docker is not available on this machine. Install Docker Desktop (and start it) to accept " ++
      "template jobs, or use --executor local for plain shell tasks.")
  else if name = "auto" then .ok (runAuto local_ (if startup.dockerAvailable then some docker else none))
  else if name = "print" then .ok fun _ _ => ([], .ok (.dict [("received", .bool true)]))
  else if '.' ∉ name.toList then
    .error (s!"Unknown executor '{name}'. Use 'echo', 'local', 'docker', 'auto', 'print', " ++
      "or a dotted path like 'mypkg.MyExecutor'.")
  else
    let (modulePath, attr) := rpartition name
    startup.load modulePath attr

/-! ### The tasks of a node -/

/-- The node that `main` runs, once it has registered. -/
def mainNode (executor : Executor F) (useHttp : Bool) (llmExecutor : Option L) : ComputeNode (Executor F) L :=
  connectAndRegister (new (some executor) true useHttp) llmExecutor

omit [PyFloat F] in
/-- The processes of a data shard are those of the calls of the worker's executor. -/
def dataShardProcesses (machine : Machine F) (worker : DataShardWorker (Executor F)) (payload : Dict F) :
    List (Process F) :=
  let call (invocation : DataWorker.Invocation F) : Call F :=
    ⟨invocation.taskId, invocation.jobId, .dict invocation.payload⟩
  let base := worker.executor.map fun run invocation => (run machine (call invocation)).2
  match DataWorker.readTask payload with
  | .error _ => []
  | .ok task =>
    let protocol := DataWorker.worker machine.hash machine.createFile machine.pollTimeout base task
    match Runs.run (ExchangeWorker.step protocol) (.polling none) machine.exchange with
    | some (_, events) =>
      (ExchangeWorker.calls events).flatMap fun invocation =>
        worker.executor.elim [] fun run => (run machine (call invocation)).1
    | none => []

omit [PyRuntime F] [PyFloat F] in
/-- The payload, if it is a dict. -/
def asDict : Option (Value F) → Option (Dict F)
  | some (.dict items) => some items
  | _ => none

omit [PyFloat F] in
/-- The processes that the call of the node's executor for a task starts. -/
def taskProcesses (node : ComputeNode (Executor F) L) (machine : Machine F) (task : TaskLoop.Task (Value F)) :
    List (Process F) :=
  match node.executor.map (route task.taskId (asDict task.payload)) with
  | some (.executor run) => (run machine ⟨task.taskId, .str task.jobId, task.payload.getD .null⟩).1
  | some (.dataWorker worker) => dataShardProcesses machine worker ((asDict task.payload).getD [])
  | _ => []

end Executors

/-- The calls of the node's executor, by the index of the task. -/
def executeCalls (events : List (TaskLoop.Event (Value F) R)) : List (Nat × TaskLoop.Task (Value F)) :=
  events.filterMap fun
    | .executeCalled index task => some (index, task)
    | _ => none

/-- The processes that a run starts, each with the index of its task. -/
def processes [PyRuntime F] (node : ComputeNode (Executor F) L) (machine : Nat → Machine F)
    (events : List (TaskLoop.Event (Value F) R)) : List (Nat × Process F) :=
  (executeCalls events).flatMap fun (index, task) => (taskProcesses node (machine index) task).map fun process =>
    (index, process)

/-! ### Every task is executed once at most -/

section Calls

variable {cfg : Config} {s s' : State (Value F) R} {labels : List (Label (Value F) R)} {label : Label (Value F) R}
  {events : List (TaskLoop.Event (Value F) R)} {event : TaskLoop.Event (Value F) R}

/-- A call that was made has left the queue, and belongs to a task that was accepted. -/
structure CalledOnce (s : State (Value F) R) (events : List (TaskLoop.Event (Value F) R)) : Prop where
  accepted : ∀ index entry, s.entries[index]? = some entry → .accepted index entry.task ∈ events
  begun : ∀ index task, (index, task) ∈ executeCalls events →
    ∃ phase, s.entries[index]? = some ⟨task, phase⟩ ∧ phase ≠ .queued
  once : ((executeCalls events).map Prod.fst).Nodup

theorem executeCalls_snoc : executeCalls (events ++ [event]) = executeCalls events ++ executeCalls [event] :=
  List.filterMap_append

theorem executeCalls_quiet (other : ∀ index task, event ≠ .executeCalled index task) :
    executeCalls (events ++ [event]) = executeCalls events := by
  rw [executeCalls_snoc]
  cases event with
  | executeCalled index task => exact absurd rfl (other index task)
  | _ => exact List.append_nil _

/-- A stretch that leaves the calls as they are. -/
theorem CalledOnce.kept (called : CalledOnce s events) (entries : s'.entries = s.entries)
    (other : ∀ index task, event ≠ .executeCalled index task) : CalledOnce s' (events ++ [event]) where
  accepted index entry found := List.mem_append_left _ (called.accepted index entry (entries ▸ found))
  begun := by
    rw [executeCalls_quiet other, entries]
    exact called.begun
  once := by
    rw [executeCalls_quiet other]
    exact called.once

theorem moveEntry_found {index other : Nat} {next : Phase R} {entry : Entry (Value F) R}
    (found : (s.moveEntry index next).entries[other]? = some entry) :
    ∃ phase, s.entries[other]? = some ⟨entry.task, phase⟩ := by
  rw [State.moveEntry, List.getElem?_modify] at found
  obtain ⟨before, at_, became⟩ := Option.map_eq_some_iff.mp found
  refine ⟨before.phase, ?_⟩
  rw [at_, ← became]
  split <;> rfl

/-- A call does not come back to the queue. -/
theorem moveEntry_begun {index other : Nat} {next phase : Phase R} {task : TaskLoop.Task (Value F)} (left : next ≠ .queued)
    (found : s.entries[other]? = some ⟨task, phase⟩) (begun : phase ≠ .queued) :
    ∃ phase, (s.moveEntry index next).entries[other]? = some ⟨task, phase⟩ ∧ phase ≠ .queued := by
  rw [State.moveEntry, List.getElem?_modify, found]
  by_cases same : index = other
  · exact ⟨next, by simp [same], left⟩
  · exact ⟨phase, by simp [same], begun⟩

/-- A stretch of one call, past the queue and without a call of the executor. -/
theorem CalledOnce.moved {index : Nat} {next : Phase R} (called : CalledOnce s events) (left : next ≠ .queued)
    (entries : s'.entries = (s.moveEntry index next).entries)
    (other : ∀ index task, event ≠ .executeCalled index task) : CalledOnce s' (events ++ [event]) where
  accepted position entry found := by
    rw [entries] at found
    obtain ⟨phase, before⟩ := moveEntry_found found
    exact List.mem_append_left _ (called.accepted position ⟨entry.task, phase⟩ before)
  begun position task member := by
    rw [executeCalls_quiet other] at member
    obtain ⟨phase, found, begun⟩ := called.begun position task member
    rw [entries]
    exact moveEntry_begun left found begun
  once := by
    rw [executeCalls_quiet other]
    exact called.once

theorem CalledOnce.step (called : CalledOnce s events) (stepped : TaskLoop.step cfg s label = some (s', event)) :
    CalledOnce s' (events ++ [event]) := by
  cases step_stretch stepped with
  | looped | refused | admitted | unanswered | broken | waited | stopped | executorSet | drained =>
    exact called.kept rfl (by simp)
  | unreadable | noExecutor | ended | escaped | reported | reportRaised | released =>
    exact called.moved (by simp) rfl (by simp)
  | @accepted task at_ =>
    constructor
    case accepted =>
      intro index entry found
      simp only [pollOnce, List.getElem?_append, List.getElem?_singleton] at found
      split at found
      next => exact List.mem_append_left _ (called.accepted index entry found)
      next beyond =>
        split at found
        next last =>
          cases found
          have here : index = s.entries.length := by omega
          rw [here]
          exact List.mem_append_right _ List.mem_cons_self
        next => cases found
    case begun =>
      intro index other member
      rw [executeCalls_quiet (by simp)] at member
      obtain ⟨phase, found, begun⟩ := called.begun index other member
      exact ⟨phase, (List.getElem?_append_left (List.getElem?_eq_some_iff.mp found).1).trans found, begun⟩
    case once =>
      rw [executeCalls_quiet (by simp)]
      exact called.once
  | @begun index task readable found =>
    have made : executeCalls (events ++ [TaskLoop.Event.executeCalled index task]) =
        executeCalls events ++ [(index, task)] := executeCalls_snoc
    constructor
    case accepted =>
      intro position entry at_
      obtain ⟨phase, before⟩ := moveEntry_found at_
      exact List.mem_append_left _ (called.accepted position ⟨entry.task, phase⟩ before)
    case begun =>
      intro position other member
      rw [made] at member
      rcases List.mem_append.mp member with old | new
      · obtain ⟨phase, at_, begun⟩ := called.begun position other old
        exact moveEntry_begun (by simp) at_ begun
      · cases List.mem_singleton.mp new
        refine ⟨.executing, ?_, by simp⟩
        rw [State.moveEntry, List.getElem?_modify_eq, found]
        rfl
    case once =>
      rw [made, List.map_append, List.nodup_append_comm, List.map_singleton, List.singleton_append, List.nodup_cons]
      refine ⟨fun again => ?_, called.once⟩
      -- The call would have left the queue before.
      obtain ⟨⟨position, other⟩, member, same⟩ := List.mem_map.mp again
      obtain ⟨phase, at_, begun⟩ := called.begun position other member
      rw [show position = index from same, found] at at_
      cases at_
      exact begun rfl

end Calls

theorem run_calledOnce {cfg : Config} {s : State (Value F) R} {labels : List (Label (Value F) R)}
    {events : List (TaskLoop.Event (Value F) R)}
    (ran : Runs.run (TaskLoop.step cfg) (TaskLoop.start true) labels = some (s, events)) : CalledOnce s events :=
  Runs.run_invariant (I := fun s _ events => CalledOnce s events)
    ⟨by simp [TaskLoop.start], by simp [executeCalls], List.nodup_nil⟩ (fun called stepped => called.step stepped) ran

/-! ### What an executor may start -/

section Permitted

variable [PyRuntime F] [PyFloat F]

/-- A shell of the host is for `local`, and for `auto` if the payload names no image; it
runs the command of the payload. A container needs Docker and an image, and is started by
the arguments that `DockerExecutor` builds. -/
def Permitted (startup : Startup F) (name : String) (machine : Machine F) (payload : Value F) : Process F → Prop
  | .host request =>
    (name = "local" ∨ name = "auto" ∧ namedImage payload = .ok none) ∧
      ∃ command, LocalExecutor.extractCommand payload = .ok command ∧ request.arguments = .shell command ∧
        request.workingDirectory = none
  | .docker dockerCmd timeout =>
    (name = "docker" ∨ name = "auto") ∧ startup.dockerAvailable ∧ (∃ image, namedImage payload = .ok (some image)) ∧
      ∃ requested, request { defaultTimeoutSeconds := startup.dockerTimeout } machine.cli.path payload = .ok requested ∧
        dockerCmd = requested.dockerCmd ∧ timeout = requested.timeout

variable {startup : Startup F} {name : String} {executor : Executor F} {machine : Machine F} {call : Call F}
  {payload : Value F}

/-- At most one process is started, and only a permitted one. -/
structure Restrained (permitted : Process F → Prop) (started : List (Process F)) : Prop where
  single : started.length ≤ 1
  permitted : ∀ process ∈ started, permitted process

omit [PyRuntime F] [PyFloat F] in
theorem restrained_nil {permitted : Process F → Prop} : Restrained permitted [] := ⟨Nat.zero_le 1, by simp⟩

omit [PyRuntime F] [PyFloat F] in
/-- One process for the value of a computation. -/
theorem restrained_map {α : Type} {permitted : Process F → Prop} {made : Except String α} {process : α → Process F}
    (each : ∀ value, made = .ok value → permitted (process value)) :
    Restrained permitted (made.toOption.toList.map process) := by
  cases made with
  | error text => exact restrained_nil
  | ok value => exact ⟨Nat.le_refl 1, by simpa [Except.toOption] using each value rfl⟩

theorem hostRequest_shell {host : Host F} {timeout : F} {requested : LocalExecutor.Request F}
    (ran : hostRequest host { defaultTimeoutSeconds := timeout } payload = .ok requested) :
    ∃ command, LocalExecutor.extractCommand payload = .ok command ∧ requested.arguments = .shell command ∧
      requested.workingDirectory = none := by
  simp only [hostRequest, Fallible.bind_eq_ok_iff, Fallible.pure_eq_ok_iff] at ran
  obtain ⟨command, extracted, _, _, shell, same, rfl⟩ := ran
  cases same
  exact ⟨command, extracted, rfl, rfl⟩

/-- `DockerExecutor` refuses a payload without an image. -/
theorem request_named {docker : DockerExecutor F} {path : String} {requested : TemplateJobs.Request F}
    (ran : request docker path payload = .ok requested) : ∃ image, namedImage payload = .ok (some image) := by
  simp only [request, Fallible.bind_eq_ok_iff] at ran
  obtain ⟨image, extracted, _⟩ := ran
  unfold extractImage at extracted
  unfold namedImage
  split at extracted
  next truthy =>
    rw [if_pos truthy]
    cases payload with
    | dict items =>
      simp only at extracted ⊢
      split at extracted
      next v named => exact ⟨v, congrArg Except.ok named⟩
      next => cases extracted
    | _ => cases extracted
  next => cases extracted

variable (machine call) in
/-- The executor of a built-in name starts what is permitted. -/
theorem resolveExecutor_restrained (builtIn : '.' ∉ name.toList) (resolved : resolveExecutor startup name = .ok executor) :
    Restrained (Permitted startup name machine call.payload) (executor machine call).1 := by
  have shell (rightly : name = "local" ∨ name = "auto" ∧ namedImage call.payload = .ok none) :
      Restrained (Permitted startup name machine call.payload)
        (runLocal { defaultTimeoutSeconds := startup.localTimeout } machine call).1 :=
    restrained_map fun requested ran => ⟨rightly, hostRequest_shell ran⟩
  have container (rightly : name = "docker" ∨ name = "auto") (available : startup.dockerAvailable = true) :
      Restrained (Permitted startup name machine call.payload)
        (runDocker { defaultTimeoutSeconds := startup.dockerTimeout } machine call).1 :=
    restrained_map fun requested ran => ⟨rightly, available, request_named ran, requested, ran, rfl, rfl⟩
  simp only [resolveExecutor] at resolved
  split at resolved
  next =>
    cases resolved
    exact restrained_nil
  split at resolved
  next is_local =>
    cases resolved
    exact shell (.inl is_local)
  split at resolved
  next is_docker =>
    split at resolved
    next available =>
      cases resolved
      exact container (.inl is_docker) available
    next => cases resolved
  split at resolved
  next is_auto =>
    cases resolved
    simp only [runAuto]
    cases named : namedImage call.payload with
    | error text => exact restrained_nil
    | ok image =>
      cases image with
      | none => exact shell (.inr ⟨is_auto, named⟩)
      | some image =>
        cases available : startup.dockerAvailable with
        | false => exact restrained_nil
        | true => exact container (.inr is_auto) available
  split at resolved
  next =>
    cases resolved
    exact restrained_nil
  cases resolved

/-! ### All runs -/

variable {cfg : Config} {llmExecutor : Option L} {machines : Nat → Machine F} {labels : List (Label (Value F) R)}
  {events : List (TaskLoop.Event (Value F) R)} {task : TaskLoop.Task (Value F)}

omit [PyRuntime F] [PyFloat F] in
/-- The task belongs to one of the workers of an HTTP node. -/
def isShard (payload : Option (Dict F)) : Bool :=
  isDataShardTask payload || hasKind payload "llm_shard" || hasKind payload "pipeline_shard"

omit [PyFloat F] in
/-- The data worker that registration builds has no executor to call. -/
theorem dataShardProcesses_fresh (payload : Dict F) : dataShardProcesses machine {} payload = [] := by
  unfold dataShardProcesses
  split
  next => rfl
  next =>
    simp only [Option.elim_none]
    split
    next => exact List.flatMap_eq_nil_iff.mpr fun _ _ => rfl
    next => rfl

/-- What the executor of the command line starts for a task, an HTTP node starts for no shard. -/
theorem taskProcesses_restrained (builtIn : '.' ∉ name.toList) (resolved : resolveExecutor startup name = .ok executor) :
    Restrained (fun process => (cfg.useHttp → isShard (asDict task.payload) = false) ∧
        Permitted startup name machine (task.payload.getD .null) process)
      (taskProcesses (mainNode executor cfg.useHttp llmExecutor) machine task) := by
  have own := resolveExecutor_restrained machine ⟨task.taskId, .str task.jobId, task.payload.getD .null⟩ builtIn resolved
  cases http : cfg.useHttp with
  | false => exact ⟨own.single, fun process started => ⟨nofun, own.permitted process started⟩⟩
  | true =>
    have wired : (mainNode executor true llmExecutor).executor =
        some (.dataShardAware {} (some {}) (some executor) llmExecutor) := rfl
    simp only [taskProcesses, wired, Option.map_some, route]
    cases data : isDataShardTask (asDict task.payload) with
    | true =>
      simp only [if_true, dataShardProcesses_fresh]
      exact restrained_nil
    | false =>
      cases llm : hasKind (asDict task.payload) "llm_shard" with
      | true =>
        simp only [Bool.false_eq_true, if_false, if_true]
        cases llmExecutor <;> exact restrained_nil
      | false =>
        cases pipeline : hasKind (asDict task.payload) "pipeline_shard" with
        | true =>
          simp only [Bool.false_eq_true, if_false, if_true]
          exact restrained_nil
        | false =>
          simp only [Bool.false_eq_true, if_false]
          exact ⟨own.single, fun process started =>
            ⟨fun _ => by simp [isShard, data, llm, pipeline], own.permitted process started⟩⟩

/-- A run of the node that `main` starts. It keeps its executor. -/
structure MainRun (cfg : Config) (labels : List (Label (Value F) R)) (events : List (TaskLoop.Event (Value F) R)) :
    Prop where
  ran : ∃ s, Runs.run (TaskLoop.step cfg) (TaskLoop.start true) labels = some (s, events)
  kept : .setExecutor ∉ labels

omit [PyFloat F] in
/-- If no call starts two processes, no task does. -/
theorem processes_sublist {node : ComputeNode (Executor F) L}
    (single : ∀ index task, (taskProcesses node (machines index) task).length ≤ 1) :
    ((processes node machines events).map Prod.fst).Sublist ((executeCalls events).map Prod.fst) := by
  unfold processes
  induction executeCalls events with
  | nil => exact .slnil
  | cons call rest ih =>
    obtain ⟨index, task⟩ := call
    have few := single index task
    rw [List.flatMap_cons, List.map_append, List.map_map, List.map_cons]
    cases started : taskProcesses node (machines index) task with
    | nil => exact ih.cons index
    | cons process others =>
      rw [started, List.length_cons] at few
      have none_ : others = [] := List.eq_nil_of_length_eq_zero (by omega)
      rw [none_]
      exact ih.cons_cons index

/-- In every run a task starts one process at most, and only what is permitted: over HTTP
none for a shard, and with `auto` none outside of a container if its payload names an
image. -/
theorem tasks_start_permitted_processes (builtIn : '.' ∉ name.toList)
    (resolved : resolveExecutor startup name = .ok executor) (main : MainRun cfg labels events) :
    ((processes (mainNode executor cfg.useHttp llmExecutor) machines events).map Prod.fst).Nodup ∧
      ∀ index process, (index, process) ∈ processes (mainNode executor cfg.useHttp llmExecutor) machines events →
        ∃ task, .accepted index task ∈ events ∧ (cfg.useHttp → isShard (asDict task.payload) = false) ∧
          Permitted startup name (machines index) (task.payload.getD .null) process := by
  obtain ⟨s, ran⟩ := main.ran
  have called := run_calledOnce ran
  constructor
  · refine (processes_sublist fun index task => ?_).nodup called.once
    exact (taskProcesses_restrained builtIn resolved).single
  · intro index process member
    obtain ⟨⟨position, task⟩, made, started⟩ := List.mem_flatMap.mp member
    obtain ⟨own, found, same⟩ := List.mem_map.mp started
    cases same
    obtain ⟨phase, entry, _⟩ := called.begun index task made
    exact ⟨task, called.accepted index ⟨task, phase⟩ entry,
      (taskProcesses_restrained builtIn resolved).permitted process found⟩

end Permitted

/-! ### One image -/

def pythonTask : TaskLoop.Task (Value Int) :=
  { taskId := "task-1", jobId := "job-1",
    payload := some (.dict [("image", .str "python:3.12-slim"), ("command", .str "python -V")]) }

def dockerHost : Machine Int where
  host := { which := fun _ => none, run := fun _ => .finished 0 (.ok ("", "")), undecodable := fun _ => "" }
  cli := { path := "docker", run := fun _ _ => .finished 0 (.ok ("Python 3.12.1\n", "")) }
  createFile _ := .ok "/tmp/input.txt"

def withDocker : Startup Int where
  dockerAvailable := true
  localTimeout := 300
  dockerTimeout := 600
  load _ _ := .error "No module named 'mypkg'"

/-- The task is accepted and executed. -/
def onePull : List (Label (Value Int) Unit) := [.loopTop, .admission, .pull (.task pythonTask), .begin 0 true]

def onePullEvents : List (TaskLoop.Event (Value Int) Unit) :=
  [.quiet, .quiet, .accepted 0 pythonTask, .executeCalled 0 pythonTask]

def autoExecutor : Executor Int := runAuto { defaultTimeoutSeconds := 300 } (some { defaultTimeoutSeconds := 600 })

def autoNode : ComputeNode (Executor Int) Unit := mainNode autoExecutor true none

def pythonCmd : List String :=
  ["docker", "run", "--rm", "--security-opt", "no-new-privileges", "--cap-drop", "ALL", "--pids-limit", "256",
    "--ulimit", "nofile=1024:4096", "--read-only", "--tmpfs", "/tmp:rw,size=64m", "python:3.12-slim", "/bin/sh", "-c",
    "python -V"]

/-- `python -V` is run in a container. -/
theorem tasks_start_permitted_processes_python :
    processes autoNode (fun _ => dockerHost) onePullEvents = [(0, .docker pythonCmd 600)] ∧
      ((processes autoNode (fun _ => dockerHost) onePullEvents).map Prod.fst).Nodup ∧
      ∃ task, .accepted 0 task ∈ onePullEvents ∧ (true = true → isShard (asDict task.payload) = false) ∧
        Permitted withDocker "auto" dockerHost (task.payload.getD .null) (.docker pythonCmd 600) := by
  have resolved : resolveExecutor withDocker "auto" = .ok autoExecutor := rfl
  have main : MainRun { useHttp := true } onePull onePullEvents := ⟨⟨_, rfl⟩, by simp [onePull]⟩
  have started : processes autoNode (fun _ => dockerHost) onePullEvents = [(0, .docker pythonCmd 600)] := rfl
  obtain ⟨once, permitted⟩ := tasks_start_permitted_processes (by simp) resolved main
  have member : (0, .docker pythonCmd 600) ∈ processes autoNode (fun _ => dockerHost) onePullEvents := by
    rw [started]
    exact List.mem_cons_self
  exact ⟨started, once, permitted 0 (.docker pythonCmd 600) member⟩

end ComputeCloudNode.NodeProcesses
