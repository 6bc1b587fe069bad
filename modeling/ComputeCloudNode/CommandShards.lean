import ComputeCloudNode.DataWorker

/-! Shards with a command. A data worker that has an executor runs the command on its
input and posts the output. The data worker that registration builds has none, so
it posts the input as it came. -/
namespace ComputeCloudNode.DataWorker
open ExchangeWorker NodeExecutors PipelineWorker

variable {F L : Type} [PyRuntime F]

/-- The command that a payload carries, in its `shard_spec` or itself. -/
def carriedCommand (payload : Dict F) : Value F :=
  let own := (payload.lookup "command").getD .null
  match shardSpec payload with
  | .dict spec => ((spec.lookup "command").filter Value.truthy).getD own
  | _ => own

/-- The input that one of these answers brought. -/
def Received (moves : List (Move F)) (input : Value F) : Prop :=
  ∃ data : Dict F, .get (.response 200 (.ok (.dict data))) ∈ moves ∧ (data.lookup "data").getD .null = input

/-- The user's executor was called once, with the command on a file with the input, and
its output was posted and reported. -/
structure CommandExecuted (base : BaseExecutor F) (command : Value F) (moves : List (Move F))
    (execution : Execution F) (input output : Value F) (text : String) (invocation : Invocation F) : Prop where
  received : Received moves input
  isText : command = .str text
  once : execution.calls = [invocation]
  substituted : invocation.command = String.ofList (replaceInputFile invocation.inputPath.toList 0 text.toList)
  onInput : invocation.inputText = fileText input
  returned : (base invocation).map commandOutput = .ok output
  posted : execution.posts ≠ [] ∧ ∀ body ∈ execution.posts, body = .dict [("data", output)]
  reported : ∃ reported, execution.outcome = .ok reported ∧ reported.lookup "output" = some output

/-- The input itself was posted and reported, and the user's executor was not called. -/
def Echoed (moves : List (Move F)) (execution : Execution F) : Prop :=
  ∃ input, Received moves input ∧ execution.calls = [] ∧ .dict [("data", input)] ∈ execution.posts ∧
    ∃ reported, execution.outcome = .ok reported ∧ reported.lookup "output" = some input

/-- The command was executed, or the call raised; and no input was passed off as an
output. -/
def ReallyExecuted (base : BaseExecutor F) (command : Value F) (moves : List (Move F)) (execution : Execution F) :
    Prop :=
  ((∃ input output text invocation, CommandExecuted base command moves execution input output text invocation) ∨
    ∃ text, execution.outcome = .error text) ∧
  ¬ Echoed moves execution

section

variable {hash : List UInt8 → List UInt8} {createFile : String → Except String String} {pollTimeout : String}
  {payload : Dict F} {command : Value F} {moves : List (Move F)} {execution : Execution F}

/-- A shard with a command and nothing that would make it a model shard. -/
structure CommandShard (payload : Dict F) (command : Value F) : Prop where
  kind : hasKind (some payload) "data_shard"
  workload : hasText payload "workload_type" "model_sharding" = false
  noLayers : hasStartLayer (shardSpec payload) ≠ .ok true
  carried : carriedCommand payload = command
  nonempty : command.truthy

omit [PyRuntime F] in
theorem hasText_iff {key text : String} : hasText payload key text ↔ payload.lookup key = some (.str text) := by
  unfold hasText
  cases payload.lookup key with
  | none => simp
  | some v =>
    cases v with
    | str s => simp
    | _ => simp

theorem commandOf_ok (commanded : DataWorker.commandOf (shardSpec payload) payload = .ok command) :
    carriedCommand payload = command := by
  unfold DataWorker.commandOf at commanded
  unfold carriedCommand
  cases spec : shardSpec payload with
  | dict fields =>
    rw [spec] at commanded
    cases found : (fields.lookup "command").filter Value.truthy with
    | none =>
      simp only [found] at commanded
      simp only [found, Option.getD_none]
      exact Except.ok.inj commanded
    | some own =>
      simp only [found] at commanded
      simp only [found, Option.getD_some]
      exact Except.ok.inj commanded
  | _ =>
    rw [spec] at commanded
    cases commanded

theorem CommandShard.not_merge (shard : CommandShard payload command) : hasText payload "kind" "data_merge" = false := by
  have kind : hasText payload "kind" "data_shard" := shard.kind
  rw [hasText_iff] at kind
  rw [Bool.eq_false_iff, Ne, hasText_iff, kind]
  simp

/-- `execute_shard` would run the command, or find a `shard_spec` that is no dict. -/
theorem CommandShard.commandOf (shard : CommandShard payload command) :
    hasStartLayer (shardSpec payload) = .ok false ∧ DataWorker.commandOf (shardSpec payload) payload = .ok command ∨
      (∃ text, hasStartLayer (shardSpec payload) = .error text) ∨
      ∃ text, hasStartLayer (shardSpec payload) = .ok false ∧
        DataWorker.commandOf (shardSpec payload) payload = .error text := by
  have carried := shard.carried
  cases layers : hasStartLayer (shardSpec payload) with
  | error text => exact .inr (.inl ⟨text, rfl⟩)
  | ok found =>
    cases found with
    | true => exact absurd layers shard.noLayers
    | false =>
      cases commanded : DataWorker.commandOf (shardSpec payload) payload with
      | error text => exact .inr (.inr ⟨text, rfl, rfl⟩)
      | ok other =>
        refine .inl ⟨rfl, ?_⟩
        rw [← carried, commandOf_ok commanded]

theorem readTask_fields {task : ShardTask F} (read : readTask payload = .ok task) :
    task.payload = payload ∧ task.isMerge = hasText payload "kind" "data_merge" := by
  simp only [readTask, Fallible.bind_eq_ok_iff, Fallible.pure_eq_ok_iff] at read
  obtain ⟨_, _, _, _, _, _, _, _, rfl⟩ := read
  exact ⟨rfl, rfl⟩

/-- What the worker of a command shard computes. -/
theorem compute_command {executor : Option (BaseExecutor F)} {task : ShardTask F} (input : Value F)
    (shard : CommandShard payload command) (read : readTask payload = .ok task) :
    (worker hash createFile pollTimeout executor task).compute input =
        (match executor with
        | some executor => runCommandShard executor createFile command input payload
        | none => ([], .ok input)) ∨
      ∃ text, (worker hash createFile pollTimeout executor task).compute input = ([], .error text) := by
  obtain ⟨same, merge⟩ := readTask_fields read
  have computed : (worker hash createFile pollTimeout executor task).compute input =
      computeShard hash createFile executor input payload := by
    simp only [worker, merge, shard.not_merge, same, Bool.false_eq_true, if_false]
  rw [computed]
  unfold computeShard
  simp only [shard.workload, Bool.false_eq_true, if_false]
  obtain ⟨layers, commanded⟩ | ⟨text, layers⟩ | ⟨text, layers, commanded⟩ := shard.commandOf
  · refine .inl ?_
    simp only [layers, commanded, shard.nonempty]
    cases executor <;> rfl
  · exact .inr ⟨text, by simp only [layers]⟩
  · exact .inr ⟨text, by simp only [layers, commanded]⟩

/-- A finished call: the worker of the task, run to its end. -/
theorem executeShard_cases {dataWorker : DataShardWorker (BaseExecutor F)}
    (ran : executeShard hash createFile pollTimeout dataWorker payload moves = some execution) :
    (∃ text, execution = .raised text ∧ moves = []) ∨
    ∃ task pc events, readTask payload = .ok task ∧
      Progress (worker hash createFile pollTimeout dataWorker.executor task) moves events pc ∧
      execution.calls = calls events ∧ execution.posts = posts events ∧
      ((∃ output, pc = .returned output ∧ execution.outcome = .ok (result task output)) ∨
        ∃ text, pc = .raised text ∧ execution.outcome = .error text) := by
  unfold executeShard at ran
  cases read : readTask payload with
  | error text =>
    simp only [read, List.isEmpty_iff] at ran
    split at ran
    next empty =>
      cases ran
      exact .inl ⟨text, rfl, empty⟩
    next => cases ran
  | ok task =>
    simp only [read, bind, Option.bind_eq_some_iff, Prod.exists] at ran
    obtain ⟨pc, events, finished, ran⟩ := ran
    refine .inr ⟨task, pc, events, rfl, run_progress finished, ?_⟩
    cases pc with
    | polling lastStatus => cases ran
    | posting output attempts lastExc lastStatus => cases ran
    | returned output =>
      cases ran
      exact ⟨rfl, rfl, .inl ⟨output, rfl, rfl⟩⟩
    | raised text =>
      cases ran
      exact ⟨rfl, rfl, .inr ⟨text, rfl, rfl⟩⟩

/-- A call that raised has reported nothing. -/
theorem ReallyExecuted.of_raised {base : BaseExecutor F} {text : String} (raised : execution.outcome = .error text) :
    ReallyExecuted base command moves execution := by
  refine ⟨.inr ⟨text, raised⟩, ?_⟩
  rintro ⟨input, _, _, _, reported, returned, _⟩
  rw [raised] at returned
  cases returned

theorem received_of_read {task : ShardTask F} {executor : Option (BaseExecutor F)} {data input : Value F}
    (got : .get (.response 200 (.ok data)) ∈ moves)
    (read : (worker hash createFile pollTimeout executor task).read data = .input input) : Received moves input := by
  cases data with
  | dict data =>
    cases read
    exact ⟨data, got, rfl⟩
  | _ => cases read

/-- A call either raised or had the output of what it received accepted. -/
theorem executeShard_finished {dataWorker : DataShardWorker (BaseExecutor F)}
    (ran : executeShard hash createFile pollTimeout dataWorker payload moves = some execution) :
    ((∃ text, execution.outcome = .error text) ∧ Unaccepted moves) ∨
    ∃ task input output, readTask payload = .ok task ∧ Received moves input ∧
      (worker hash createFile pollTimeout dataWorker.executor task).compute input = (execution.calls, .ok output) ∧
      (∃ sent, execution.posts = List.replicate (sent + 1) (.dict [("data", output)])) ∧
      execution.outcome = .ok (result task output) ∧ ¬ Unaccepted moves := by
  obtain ⟨text, rfl, rfl⟩ | ⟨task, pc, events, read, progress, called, posted, finished⟩ := executeShard_cases ran
  · exact .inl ⟨⟨text, rfl⟩, nofun⟩
  · obtain ⟨output, rfl, returned⟩ | ⟨text, rfl, raised⟩ := finished
    · obtain ⟨input, sent, computed, computes, posts, success⟩ := progress.of_returned
      obtain ⟨data, got, dataRead⟩ := computed.got
      refine .inr ⟨task, input, output, read, received_of_read got dataRead, ?_, ⟨sent, posted.trans posts⟩, returned, ?_⟩
      · rw [called, computed.called, ← computes]
      · obtain ⟨answer, member, succeeded⟩ := success
        intro unaccepted
        rw [unaccepted answer member] at succeeded
        cases succeeded
    · exact .inl ⟨⟨text, raised⟩, progress.of_raised⟩

theorem runCommandShard_ok {base : BaseExecutor F} {input output : Value F} {calls : List (Invocation F)}
    (computed : runCommandShard base createFile command input payload = (calls, .ok output)) :
    ∃ invocation text path, command = .str text ∧ calls = [invocation] ∧
      invocation = { invocation with
        command := String.ofList (replaceInputFile path.toList 0 text.toList), inputPath := path
        inputText := fileText input } ∧
      (base invocation).map commandOutput = .ok output := by
  unfold runCommandShard at computed
  split at computed
  next => cases congrArg Prod.snd computed
  next path created =>
    split at computed
    next text =>
      obtain ⟨rfl, gave⟩ := Prod.mk.inj computed
      exact ⟨_, text, path, rfl, rfl, rfl, gave⟩
    next => cases congrArg Prod.snd computed

/-- A data worker that has an executor runs the command. -/
theorem executed_of_executor {base : BaseExecutor F} (shard : CommandShard payload command)
    (ran : executeShard hash createFile pollTimeout { executor := some base } payload moves = some execution) :
    ReallyExecuted base command moves execution := by
  obtain ⟨⟨text, raised⟩, _⟩ | ⟨task, input, output, read, received, computed, ⟨sent, posted⟩, returned, _⟩ :=
    executeShard_finished ran
  · exact .of_raised raised
  · obtain computes | ⟨text, refused⟩ := compute_command input shard read
    · obtain ⟨invocation, text, path, isText, called, invoked, gave⟩ := runCommandShard_ok (computes.symm.trans computed)
      refine ⟨.inl ⟨input, output, text, invocation, ?_⟩, ?_⟩
      · refine ⟨received, isText, called, ?_, ?_, gave, ?_, _, returned, rfl⟩
        · rw [invoked]
        · rw [invoked]
        · rw [posted]
          exact ⟨List.cons_ne_nil _ _, fun body member => List.eq_of_mem_replicate member⟩
      · rintro ⟨_, _, none_, _⟩
        rw [called] at none_
        cases none_
    · rw [refused] at computed
      cases congrArg Prod.snd computed

/-- A node with pipeline shards over HTTP, and the executor its user supplied. -/
structure Supplied (node : ComputeNode (BaseExecutor F) L) (base : BaseExecutor F) : Prop where
  pipeline : node.enablePipeline
  http : node.useHttp
  executor : node.baseExecutor = some base

/-- On a node as it is registered, the command is executed only in the sense that a call
which posts nothing with success raises. -/
theorem command_shard_executed_iff {node : ComputeNode (BaseExecutor F) L} {base : BaseExecutor F}
    (taskId : String) (supplied : Supplied node base) (llmExecutor : Option L) (shard : CommandShard payload command)
    (ran : executeTask hash createFile pollTimeout (connectAndRegister node llmExecutor) taskId payload moves =
      some execution) :
    ReallyExecuted base command moves execution ↔ Unaccepted moves := by
  have shardRan : executeShard hash createFile pollTimeout {} payload moves = some execution := by
    have routed : isDataShardTask (some payload) = true := by
      unfold isDataShardTask
      rw [shard.kind, Bool.true_or]
    simpa only [executeTask, connectAndRegister, supplied.pipeline, supplied.http, Bool.and_self, if_true, route,
      routed, bind, Option.bind_some] using ran
  obtain ⟨⟨text, raised⟩, unaccepted⟩ | ⟨task, input, output, read, received, computed, ⟨sent, posted⟩, returned,
    accepted⟩ := executeShard_finished shardRan
  · exact ⟨fun _ => unaccepted, fun _ => .of_raised raised⟩
  · refine ⟨fun ⟨_, notEchoed⟩ => absurd ?_ notEchoed, fun unaccepted => absurd unaccepted accepted⟩
    obtain computes | ⟨text, refused⟩ := compute_command input shard read
    · obtain ⟨noCalls, same⟩ := Prod.mk.inj (computes.symm.trans computed)
      cases same
      refine ⟨input, received, noCalls.symm, ?_, _, returned, rfl⟩
      rw [posted]
      exact List.mem_cons_self
    · rw [refused] at computed
      cases congrArg Prod.snd computed

end

/-! ### A command that is not run -/

section

/-- Counts the lines of an input. -/
def countLines : Dict Int :=
  [("kind", .str "data_shard"), ("data_run_id", .str "run-1"), ("shard_index", .int 0), ("shard_count", .int 1),
    ("shard_spec", .dict [("command", .str "wc -l \x7binput_file\x7d")])]

/-- The input comes and the output is accepted. -/
def served : List (Move Int) :=
  [.get (.response 200 (.ok (.dict [("data", .str "one\ntwo\n")]))), .post (.response 200 (.ok .null))]

def printsTwo : BaseExecutor Int := fun _ => .ok (.dict [("stdout", .str "2\n")])

/-- A node of a user whose executor prints the number of lines. -/
def counter : ComputeNode (BaseExecutor Int) Unit := new (some printsTwo) true true

theorem countLines_shard : CommandShard countLines (.str "wc -l \x7binput_file\x7d") where
  kind := rfl
  workload := rfl
  noLayers := nofun
  carried := rfl
  nonempty := rfl

theorem command_shard_echoes :
    ∃ execution, executeTask (fun _ => []) (fun _ => .ok "/tmp/input.txt") "60.0" (connectAndRegister counter none) "task"
        countLines served = some execution ∧
      CommandShard countLines (.str "wc -l \x7binput_file\x7d") ∧
      Supplied counter printsTwo ∧
      ¬ ReallyExecuted printsTwo (.str "wc -l \x7binput_file\x7d") served execution := by
  refine ⟨_, rfl, countLines_shard, ⟨rfl, rfl, rfl⟩, ?_⟩
  rintro ⟨-, notEchoed⟩
  exact notEchoed ⟨.str "one\ntwo\n", ⟨_, List.mem_cons_self, rfl⟩, rfl, List.mem_cons_self, _, rfl, rfl⟩

/-- The input comes and none of the three posts is accepted. -/
def refused : List (Move Int) :=
  [.get (.response 200 (.ok (.dict [("data", .str "one\ntwo\n")]))), .post (.response 503 (.ok .null)),
    .post (.response 503 (.ok .null)), .post (.response 503 (.ok .null))]

theorem command_shard_executed_iff_refused :
    ∃ execution, executeTask (fun _ => []) (fun _ => .ok "/tmp/input.txt") "60.0" (connectAndRegister counter none) "task"
        countLines refused = some execution ∧
      execution.posts = List.replicate 3 (.dict [("data", .str "one\ntwo\n")]) ∧
      ReallyExecuted printsTwo (.str "wc -l \x7binput_file\x7d") refused execution := by
  have supplied : Supplied counter printsTwo := ⟨rfl, rfl, rfl⟩
  refine ⟨_, rfl, rfl, (command_shard_executed_iff "task" supplied none countLines_shard rfl).mpr ?_⟩
  intro answer member
  simp only [refused, List.mem_cons, List.not_mem_nil, or_false, Move.post.injEq, or_self, reduceCtorEq, false_or] at member
  rw [member]
  rfl

end

end ComputeCloudNode.DataWorker
