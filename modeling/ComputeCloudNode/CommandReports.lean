import ComputeCloudNode.LocalExecutor
import ComputeCloudNode.TaskReports

/-! What a node reports of the commands that its `LocalProcessExecutor` runs. A report
says success whenever `execute` returns, and `execute` returns whatever the exit code
is, and after a timeout. -/
namespace ComputeCloudNode.LocalExecutor
open TaskLoop

variable {F : Type} [PyRuntime F] [PyFloat F] {host : Host F} {executor : LocalProcessExecutor F} {payload : Value F}

/-- The command of a payload with its timeout, and how its process ends. -/
def spawn (host : Host F) (executor : LocalProcessExecutor F) (payload : Value F) :
    Except String (String × F × Ending) := do
  let command ← extractCommand payload
  let timeout ← extractTimeout executor payload
  let arguments ← arguments host executor command
  return (command, timeout, host.run { arguments, timeout, workingDirectory := executor.workingDirectory })

/-- The command was started and finished with code 0 before its timeout. -/
def FinishedWithZero (host : Host F) (executor : LocalProcessExecutor F) (payload : Value F) : Prop :=
  ∃ command timeout output, spawn host executor payload = .ok (command, timeout, .finished 0 output)

/-- Code 0 with an output that is text, another code with an output that is none, a
timeout whose output is none, or no process at all. -/
def Ending.Faithful : Ending → Prop
  | .finished returnCode (.ok _) => returnCode = 0
  | .finished returnCode (.error _) => returnCode ≠ 0
  | .timedOut stdout _ => ∃ bytes, stdout = some (.bytes bytes) ∧ String.fromUTF8? ⟨bytes.toArray⟩ = none
  | .failed _ => True

/-! ### What a call returns -/

theorem execute_eq : execute host executor payload = (do
    let (command, timeout, ending) ← spawn host executor payload
    let result ← commandResult host timeout ending
    return [("command", .str command), ("return_code", .int result.returnCode), ("stdout", .str result.stdout),
      ("stderr", .str result.stderr)]) := by
  unfold execute spawn run
  simp only [bind_assoc, pure_bind]

omit [PyRuntime F] [PyFloat F] in
variable (host) in
/-- An output that was cut off is refused when it is no text. -/
theorem partialText_error_iff (stdout : Option Captured) : (∃ text, partialText host stdout = .error text) ↔
    ∃ bytes, stdout = some (.bytes bytes) ∧ String.fromUTF8? ⟨bytes.toArray⟩ = none := by
  cases stdout with
  | none => simp [partialText]
  | some captured =>
    cases captured with
    | text s => simp [partialText]
    | bytes bytes =>
      simp only [partialText, decode, Option.some.injEq, Captured.bytes.injEq, exists_eq_left']
      cases String.fromUTF8? ⟨bytes.toArray⟩ with
      | none => simp
      | some s => simp

omit [PyFloat F] in
variable (host) in
/-- `_run` returns on exactly the processes that finish with code 0, if and only if this
one ends faithfully. -/
theorem commandResult_faithful_iff (timeout : F) (ending : Ending) :
    ((∃ result, commandResult host timeout ending = .ok result) ↔ ∃ output, ending = .finished 0 output) ↔
      ending.Faithful := by
  cases ending with
  | finished returnCode output =>
    cases output with
    | ok output =>
      obtain ⟨stdout, stderr⟩ := output
      simp [commandResult, Ending.Faithful]
    | error text => simp [commandResult, Ending.Faithful]
  | timedOut stdout stderr =>
    rw [Ending.Faithful, ← partialText_error_iff host]
    cases cut : partialText host stdout with
    | ok text => simp [commandResult, cut, bind, Except.bind, pure, Except.pure]
    | error text => simp [commandResult, cut, bind, Except.bind]
  | failed text => simp [commandResult, Ending.Faithful]

/-- A call reports success exactly when `_run` returns. -/
theorem success_iff_returned {task : TaskLoop.Task (Value F)} {result : TaskResult (Dict F)}
    (made : resultOf (executeOutcome host executor task) = some result) :
    result.success ↔ ∃ command timeout ending, spawn host executor (task.payload.getD .null) =
      .ok (command, timeout, ending) ∧ ∃ returned, commandResult host timeout ending = .ok returned := by
  unfold executeOutcome at made
  rw [execute_eq] at made
  constructor
  · intro success
    split at made
    next dict returned =>
      simp only [Fallible.bind_eq_ok_iff] at returned
      obtain ⟨⟨command, timeout, ending⟩, spawned, returned, ran, _⟩ := returned
      exact ⟨command, timeout, ending, spawned, returned, ran⟩
    next text raised =>
      cases made
      cases success
  · rintro ⟨command, timeout, ending, spawned, returned, ran⟩
    simp only [spawned, ran, Fallible.bind_ok, pure, Except.pure] at made
    cases made
    rfl

/-! ### What a node reports -/

/-- A run of a node with this executor, from its start: the tasks that it pulled, and the
host as the call of each task found it. -/
structure LocalRun (cfg : Config) (executor : LocalProcessExecutor F) (host : Nat → Host F)
    (tasks : Nat → TaskLoop.Task (Value F)) (labels : List (Label (Value F) (Dict F)))
    (events : List (Event (Value F) (Dict F))) : Prop where
  ran : ∃ s, Runs.run (step cfg) {} labels = some (s, events)
  pulled : ∀ index task, .accepted index task ∈ events → task = tasks index
  executed : ∀ index outcome, .executed index outcome ∈ labels →
    outcome = executeOutcome (host index) executor (tasks index)

/-- A report says success for exactly the commands that finished with code 0, if and only
if the process of the task ended faithfully. -/
theorem reported_success_iff {cfg : Config} {host : Nat → Host F} {tasks : Nat → TaskLoop.Task (Value F)}
    {labels : List (Label (Value F) (Dict F))} {events : List (Event (Value F) (Dict F))} {index : Nat} {taskId : String}
    {result : TaskResult (Dict F)} (local_ : LocalRun cfg executor host tasks labels events)
    (reported : .reportAttempted index taskId result ∈ events) :
    (result.success ↔ FinishedWithZero (host index) executor ((tasks index).payload.getD .null)) ↔
      ∀ command timeout ending,
        spawn (host index) executor ((tasks index).payload.getD .null) = .ok (command, timeout, ending) →
          ending.Faithful := by
  obtain ⟨s, ran⟩ := local_.ran
  obtain ⟨outcome, executed, made⟩ := report_made rfl rfl ran reported
  rw [local_.executed index outcome executed] at made
  rw [success_iff_returned made]
  have returns := commandResult_faithful_iff (host index)
  constructor
  · intro rightly command timeout ending spawned
    refine (returns timeout ending).mp ⟨fun returned => ?_, fun ⟨output, finished⟩ => ?_⟩
    · obtain ⟨_, _, output, same⟩ := rightly.mp ⟨command, timeout, ending, spawned, returned⟩
      cases Except.ok.inj (same.symm.trans spawned)
      exact ⟨output, rfl⟩
    · subst finished
      obtain ⟨_, _, _, same, returned⟩ := rightly.mpr ⟨command, timeout, output, spawned⟩
      cases Except.ok.inj (same.symm.trans spawned)
      exact returned
  · intro faithful
    constructor
    · rintro ⟨command, timeout, ending, spawned, returned⟩
      obtain ⟨output, rfl⟩ := ((returns timeout ending).mpr (faithful command timeout ending spawned)).mp returned
      exact ⟨command, timeout, output, spawned⟩
    · rintro ⟨command, timeout, output, spawned⟩
      have returned := ((returns timeout _).mpr (faithful command timeout _ spawned)).mpr ⟨output, rfl⟩
      exact ⟨command, timeout, _, spawned, returned⟩

/-! ### One command -/

/-- A node pulls one task, executes it and reports it. -/
def oneTask (task : TaskLoop.Task (Value F)) (outcome : ExecuteOutcome (Dict F)) : List (Label (Value F) (Dict F)) :=
  [.loopTop, .admission, .pull (.task task), .begin 0 true, .executed 0 outcome, .reported 0 (.answered 200)]

variable (host executor) in
theorem oneTask_reported (task : TaskLoop.Task (Value F)) {result : TaskResult (Dict F)}
    (made : resultOf (executeOutcome host executor task) = some result) :
    ∃ events, LocalRun {} executor (fun _ => host) (fun _ => task) (oneTask task (executeOutcome host executor task))
      events ∧ .reportAttempted 0 task.taskId result ∈ events := by
  refine ⟨[.quiet, .quiet, .accepted 0 task, .executeCalled 0 task, .quiet, .reportAttempted 0 task.taskId result],
    ⟨?_, ?_, ?_⟩, List.mem_of_getElem? (i := 5) rfl⟩
  · unfold oneTask
    cases outcome : executeOutcome host executor task with
    | returned output =>
      rw [outcome] at made
      cases made
      exact ⟨_, rfl⟩
    | raised text =>
      cases text <;> rw [outcome] at made <;> cases made
      exact ⟨_, rfl⟩
    | raisedBase =>
      rw [outcome] at made
      cases made
  · intro index pulled accepted
    simp only [List.mem_cons, reduceCtorEq, false_or, Event.accepted.injEq, List.not_mem_nil, or_false] at accepted
    exact accepted.2
  · intro index outcome executed
    simp only [oneTask, List.mem_cons, reduceCtorEq, false_or, Label.executed.injEq, List.not_mem_nil,
      or_false] at executed
    exact executed.2

def shellTask (command : String) : TaskLoop.Task (Value Int) :=
  { taskId := "task-1", jobId := "job-1", payload := some (.dict [("command", .str command)]) }

def localExecutor : LocalProcessExecutor Int := { defaultTimeoutSeconds := 300 }

/-- Every process of this host ends the same way. -/
def endsWith (ending : Ending) : Host Int where
  which _ := none
  run _ := ending
  undecodable _ := "'utf-8' codec can't decode byte 0xff in position 0: invalid start byte"

def exitsWithOne : Host Int := endsWith (.finished 1 (.ok ("", "")))

theorem failed_command_reports_success :
    ∃ labels events result, LocalRun {} localExecutor (fun _ => exitsWithOne) (fun _ => shellTask "exit 1") labels events ∧
      .reportAttempted 0 "task-1" result ∈ events ∧ result.success ∧
      ¬ FinishedWithZero exitsWithOne localExecutor (.dict [("command", .str "exit 1")]) := by
  obtain ⟨events, ran, reported⟩ := oneTask_reported exitsWithOne localExecutor (shellTask "exit 1") rfl
  refine ⟨_, events, _, ran, reported, rfl, ?_⟩
  rintro ⟨command, timeout, output, spawned⟩
  cases spawned

def exitsWithZero : Host Int := endsWith (.finished 0 (.ok ("42\n", "")))

theorem reported_success_iff_printed :
    ∃ labels events, ∃ result : TaskResult (Dict Int),
      LocalRun {} localExecutor (fun _ => exitsWithZero) (fun _ => shellTask "echo 42") labels events ∧
      ((result.success ↔ FinishedWithZero exitsWithZero localExecutor (.dict [("command", .str "echo 42")])) ↔
        ∀ command timeout ending, spawn exitsWithZero localExecutor (.dict [("command", .str "echo 42")]) =
          .ok (command, timeout, ending) → ending.Faithful) := by
  obtain ⟨events, ran, reported⟩ := oneTask_reported exitsWithZero localExecutor (shellTask "echo 42") rfl
  exact ⟨_, events, _, ran, reported_success_iff ran reported⟩

end ComputeCloudNode.LocalExecutor
