import ComputeCloudNode.Lib.Runs
import Mathlib.Tactic

/-! The task side of a `ComputeNode`: the main thread polls and admits tasks,
pool threads run `_execute_task`, and `stop()` drains the pool before the HTTP
client is closed. One label is one uninterrupted stretch of one thread, so a list
of labels is an interleaving. The main thread reads `_tasks_in_flight` without
the lock, which is why the admission check and the pull are separate labels.

Left out: log lines, the wall-clock `execution_time_seconds` and `completed_at`
fields of a result, and the request URLs. Submission to the pool is taken to
succeed, and a pool thread may pick up any queued task. -/
namespace ComputeCloudNode.TaskLoop

variable {P R : Type}

/-- The settings of `NodeConfig` that the task loop reads. -/
structure Config where
  maxConcurrentTasks : Int := 4
  useHttp : Bool := false
  deriving DecidableEq

/-- A pulled task, over HTTP a dictionary and over gRPC a `TaskAssignment`. -/
structure Task (P : Type) where
  taskId : String
  jobId : String
  payload : Option P
  deriving DecidableEq

/-- `executor.py::TaskResult` without its clock fields. -/
structure TaskResult (R : Type) where
  success : Bool := true
  result : Option R := none
  error : Option String := none
  deriving DecidableEq

/-- How `executor.execute` ends. `raised` is an `Exception` together with its
`str`, which is missing when `str(exc)` raises as well; `raisedBase` is anything
that `except Exception` lets through, such as `SystemExit`. -/
inductive ExecuteOutcome (R : Type)
  | returned (outcome : Option R)
  | raised (text : Option String)
  | raisedBase
  deriving DecidableEq

/-- How the report ends. Encoding the body fails before anything is sent; gRPC
has no status line, so any answer counts as a returned RPC there. -/
inductive ReportAnswer
  | unserialisable
  | networkException
  | answered (status : Nat)
  deriving DecidableEq

/-- What the pull request brings. `malformed` is a JSON body on which
`data.get("has_task")` raises outside the `try`. -/
inductive PullAnswer (P : Type)
  | failed
  | malformed
  | noTask
  | task (task : Task P)
  deriving DecidableEq

/-- `httpx.Response.raise_for_status` returns for 2xx and raises for every other
status class. -/
def raiseForStatus (status : Nat) : Bool := 200 ≤ status && status < 300

/-- `_report_result`: whether the call returns. -/
def reportResult (useHttp : Bool) : ReportAnswer → Bool
  | .unserialisable => false
  | .networkException => false
  | .answered status => !useHttp || raiseForStatus status

/-- The result `_execute_task` reports when no executor is set. -/
def noExecutorResult : TaskResult R :=
  { success := false, error := some "No executor set - call set_executor() before running." }

/-- The `try` around `executor.execute`. Nothing comes back when the exception
leaves `_execute_task` instead of being turned into a failed result. -/
def resultOf : ExecuteOutcome R → Option (TaskResult R)
  | .returned outcome => some { success := true, result := outcome }
  | .raised (some text) => some { success := false, error := some text }
  | .raised none => none
  | .raisedBase => none

/-- Where the `_execute_task` call of one pulled task stands. -/
inductive Phase (R : Type)
  /-- Submitted, no pool thread has picked it up. -/
  | queued
  /-- Inside `executor.execute`. -/
  | executing
  /-- The result is built, `_report_result` is next. -/
  | reporting (result : TaskResult R)
  /-- The report returned, the decrement is next. -/
  | releasing
  | returned
  | raised
  deriving DecidableEq

/-- The call has neither returned nor raised. -/
def Phase.unfinished : Phase R → Bool
  | .returned => false
  | .raised => false
  | _ => true

/-- The call left `_execute_task` by an exception, past the decrement. -/
def Phase.escaped : Phase R → Bool
  | .raised => true
  | _ => false

/-- A pool thread is occupied by the call. -/
def Phase.busy : Phase R → Bool
  | .queued => false
  | phase => phase.unfinished

/-- A pulled task and the state of its call. -/
structure Entry (P R : Type) where
  task : Task P
  phase : Phase R
  deriving DecidableEq

/-- Where the main thread stands in `run`. -/
inductive MainPc
  /-- About to test `_stop_event`. -/
  | loopTop
  /-- About to compare the counter with the limit. -/
  | admission
  /-- The pull request is out. -/
  | pulling
  /-- Session poll and `_stop_event.wait`. -/
  | waiting
  /-- `_exec_pool.shutdown(wait=True)`. -/
  | draining
  /-- The HTTP client is closed. -/
  | closed
  deriving DecidableEq

structure State (P R : Type) where
  tasksInFlight : Int := 0
  /-- Every task ever accepted, in the order of the pulls. -/
  entries : List (Entry P R) := []
  main : MainPc := .loopTop
  stopRequested : Bool := false
  executorSet : Bool := true
  deriving DecidableEq

/-- One stretch of one thread, with what the outside world answers in it. -/
inductive Label (P R : Type)
  | loopTop
  | admission
  | pull (answer : PullAnswer P)
  | waited
  | stop
  | setExecutor
  | drained
  /-- Pool thread: read the executor and the fields of the task. Over gRPC
  `MessageToDict` can refuse the payload. -/
  | begin (index : Nat) (readable : Bool)
  | executed (index : Nat) (outcome : ExecuteOutcome R)
  | reported (index : Nat) (answer : ReportAnswer)
  | released (index : Nat)
  deriving DecidableEq

/-- What a stretch shows to the outside. -/
inductive Event (P R : Type)
  | quiet
  | refused
  | accepted (index : Nat) (task : Task P)
  | executeCalled (index : Nat) (task : Task P)
  | reportAttempted (index : Nat) (taskId : String) (result : TaskResult R)
  | clientClosed
  deriving DecidableEq

namespace State

variable (s : State P R)

def phaseAt (index : Nat) : Option (Phase R) := s.entries[index]?.map Entry.phase

/-- Move one call to its next phase. -/
def moveEntry (index : Nat) (next : Phase R) : State P R :=
  { s with entries := s.entries.modify index fun entry => { entry with phase := next } }

def count (p : Phase R → Bool) : Nat := s.entries.countP fun entry => p entry.phase

/-- Pulled tasks whose `_execute_task` call has not finished. -/
def unfinished : Nat := s.count Phase.unfinished

/-- Calls that left by an exception. -/
def escaped : Nat := s.count Phase.escaped

/-- `_poll_once`: `self._tasks_in_flight >= self.config.max_concurrent_tasks`. -/
def refuses (cfg : Config) : Bool := cfg.maxConcurrentTasks ≤ s.tasksInFlight

end State

/-- The tail of `_poll_once_http` and `_poll_once_grpc` once the request is
answered. -/
def pollOnce (s : State P R) : PullAnswer P → State P R × Event P R
  | .failed => ({ s with main := .waiting }, .quiet)
  | .noTask => ({ s with main := .waiting }, .quiet)
  -- The exception ends the loop of `run`, whose `finally` clause stops the node.
  | .malformed => ({ s with main := .draining }, .quiet)
  | .task task =>
    ({ s with
        tasksInFlight := s.tasksInFlight + 1
        entries := s.entries ++ [⟨task, .queued⟩]
        main := .waiting },
      .accepted s.entries.length task)

/-- `_execute_task` up to the call of the executor. -/
def beginTask (cfg : Config) (s : State P R) (index : Nat) (task : Task P) (readable : Bool) :
    State P R × Event P R :=
  if !cfg.useHttp && !readable then (s.moveEntry index .raised, .quiet)
  else if s.executorSet then (s.moveEntry index .executing, .executeCalled index task)
  else (s.moveEntry index (.reporting noExecutorResult), .quiet)

/-- `_execute_task` from the end of `executor.execute` to the report. -/
def finishExecute (s : State P R) (index : Nat) (outcome : ExecuteOutcome R) : State P R :=
  match resultOf outcome with
  | some result => s.moveEntry index (.reporting result)
  | none => s.moveEntry index .raised

/-- One stretch of one thread of the node. -/
def step (cfg : Config) : Runs.Step (State P R) (Label P R) (Event P R)
  | s, .loopTop =>
    if s.main = .loopTop then
      some ({ s with main := if s.stopRequested then .draining else .admission }, .quiet)
    else none
  | s, .admission =>
    if s.main = .admission then
      if s.refuses cfg then some ({ s with main := .waiting }, .refused)
      else some ({ s with main := .pulling }, .quiet)
    else none
  | s, .pull answer => if s.main = .pulling then some (pollOnce s answer) else none
  | s, .waited => if s.main = .waiting then some ({ s with main := .loopTop }, .quiet) else none
  | s, .stop => some ({ s with stopRequested := true }, .quiet)
  | s, .setExecutor => some ({ s with executorSet := true }, .quiet)
  | s, .drained =>
    -- `shutdown(wait=True)` comes back once every submitted call has finished.
    if s.main = .draining ∧ s.unfinished = 0 then some ({ s with main := .closed }, .clientClosed)
    else none
  | s, .begin index readable =>
    match s.entries[index]? with
    | some ⟨task, .queued⟩ =>
      -- The pool has `max_workers = max_concurrent_tasks` threads.
      if (s.count Phase.busy : Int) < cfg.maxConcurrentTasks then
        some (beginTask cfg s index task readable)
      else none
    | _ => none
  | s, .executed index outcome =>
    match s.phaseAt index with
    | some .executing => some (finishExecute s index outcome, .quiet)
    | _ => none
  | s, .reported index answer =>
    match s.entries[index]? with
    | some ⟨task, .reporting result⟩ =>
      some (s.moveEntry index (if reportResult cfg.useHttp answer then .releasing else .raised),
        .reportAttempted index task.taskId result)
    | _ => none
  | s, .released index =>
    match s.phaseAt index with
    | some .releasing =>
      some ({ s.moveEntry index .returned with tasksInFlight := s.tasksInFlight - 1 }, .quiet)
    | _ => none

/-! ### What a stretch can do -/

variable {cfg : Config} {s s' : State P R} {label : Label P R} {event : Event P R}

variable (cfg s) in
/-- Everything a stretch can do. -/
inductive Stretch : Label P R → State P R → Event P R → Prop
  | looped (at_ : s.main = .loopTop) :
    Stretch .loopTop { s with main := if s.stopRequested then .draining else .admission } .quiet
  | refused (at_ : s.main = .admission) (full : s.refuses cfg) : Stretch .admission { s with main := .waiting } .refused
  | admitted (at_ : s.main = .admission) (room : s.refuses cfg = false) :
    Stretch .admission { s with main := .pulling } .quiet
  | unanswered {answer : PullAnswer P} (at_ : s.main = .pulling) (nothing : answer = .failed ∨ answer = .noTask) :
    Stretch (.pull answer) { s with main := .waiting } .quiet
  | broken (at_ : s.main = .pulling) : Stretch (.pull .malformed) { s with main := .draining } .quiet
  | accepted {task : Task P} (at_ : s.main = .pulling) :
    Stretch (.pull (.task task)) (pollOnce s (.task task)).1 (.accepted s.entries.length task)
  | waited (at_ : s.main = .waiting) : Stretch .waited { s with main := .loopTop } .quiet
  | stopped : Stretch .stop { s with stopRequested := true } .quiet
  | executorSet : Stretch .setExecutor { s with executorSet := true } .quiet
  | drained (at_ : s.main = .draining) (finished : s.unfinished = 0) :
    Stretch .drained { s with main := .closed } .clientClosed
  | unreadable {index : Nat} {task : Task P} {readable : Bool} (found : s.entries[index]? = some ⟨task, .queued⟩)
      (free : (s.count Phase.busy : Int) < cfg.maxConcurrentTasks) (grpc : !cfg.useHttp && !readable) :
    Stretch (.begin index readable) (s.moveEntry index .raised) .quiet
  | begun {index : Nat} {task : Task P} {readable : Bool} (found : s.entries[index]? = some ⟨task, .queued⟩)
      (free : (s.count Phase.busy : Int) < cfg.maxConcurrentTasks) (read : (!cfg.useHttp && !readable) = false)
      (set : s.executorSet) : Stretch (.begin index readable) (s.moveEntry index .executing) (.executeCalled index task)
  | noExecutor {index : Nat} {task : Task P} {readable : Bool} (found : s.entries[index]? = some ⟨task, .queued⟩)
      (free : (s.count Phase.busy : Int) < cfg.maxConcurrentTasks) (read : (!cfg.useHttp && !readable) = false)
      (unset : s.executorSet = false) :
    Stretch (.begin index readable) (s.moveEntry index (.reporting noExecutorResult)) .quiet
  | ended {index : Nat} {outcome : ExecuteOutcome R} {result : TaskResult R} (at_ : s.phaseAt index = some .executing)
      (built : resultOf outcome = some result) :
    Stretch (.executed index outcome) (s.moveEntry index (.reporting result)) .quiet
  | escaped {index : Nat} {outcome : ExecuteOutcome R} (at_ : s.phaseAt index = some .executing)
      (unbuilt : resultOf outcome = none) : Stretch (.executed index outcome) (s.moveEntry index .raised) .quiet
  | reported {index : Nat} {answer : ReportAnswer} {task : Task P} {result : TaskResult R}
      (found : s.entries[index]? = some ⟨task, .reporting result⟩) (returns : reportResult cfg.useHttp answer) :
    Stretch (.reported index answer) (s.moveEntry index .releasing) (.reportAttempted index task.taskId result)
  | reportRaised {index : Nat} {answer : ReportAnswer} {task : Task P} {result : TaskResult R}
      (found : s.entries[index]? = some ⟨task, .reporting result⟩)
      (raises : reportResult cfg.useHttp answer = false) :
    Stretch (.reported index answer) (s.moveEntry index .raised) (.reportAttempted index task.taskId result)
  | released {index : Nat} (at_ : s.phaseAt index = some .releasing) :
    Stretch (.released index) { s.moveEntry index .returned with tasksInFlight := s.tasksInFlight - 1 } .quiet

theorem step_stretch (stepped : step cfg s label = some (s', event)) : Stretch cfg s label s' event := by
  cases label with
  | loopTop =>
    simp only [step, Option.ite_none_right_eq_some, Option.some.injEq, Prod.mk.injEq] at stepped
    obtain ⟨at_, rfl, rfl⟩ := stepped
    exact .looped at_
  | admission =>
    simp only [step, Option.ite_none_right_eq_some] at stepped
    obtain ⟨at_, stepped⟩ := stepped
    cases full : s.refuses cfg with
    | true =>
      rw [if_pos full] at stepped
      cases stepped
      exact .refused at_ full
    | false =>
      rw [if_neg (by simp [full])] at stepped
      cases stepped
      exact .admitted at_ full
  | pull answer =>
    simp only [step, Option.ite_none_right_eq_some, Option.some.injEq] at stepped
    obtain ⟨at_, stepped⟩ := stepped
    cases answer with
    | failed =>
      cases stepped
      exact .unanswered at_ (.inl rfl)
    | noTask =>
      cases stepped
      exact .unanswered at_ (.inr rfl)
    | malformed =>
      cases stepped
      exact .broken at_
    | task task =>
      cases stepped
      exact .accepted at_
  | waited =>
    simp only [step, Option.ite_none_right_eq_some, Option.some.injEq, Prod.mk.injEq] at stepped
    obtain ⟨at_, rfl, rfl⟩ := stepped
    exact .waited at_
  | stop =>
    cases stepped
    exact .stopped
  | setExecutor =>
    cases stepped
    exact .executorSet
  | drained =>
    simp only [step, Option.ite_none_right_eq_some, Option.some.injEq, Prod.mk.injEq] at stepped
    obtain ⟨⟨at_, finished⟩, rfl, rfl⟩ := stepped
    exact .drained at_ finished
  | begin index readable =>
    simp only [step] at stepped
    split at stepped
    next task found =>
      simp only [Option.ite_none_right_eq_some, Option.some.injEq] at stepped
      obtain ⟨free, stepped⟩ := stepped
      cases read : !cfg.useHttp && !readable with
      | true =>
        simp only [beginTask, read, if_true] at stepped
        cases stepped
        exact .unreadable found free read
      | false =>
        cases set : s.executorSet with
        | true =>
          simp only [beginTask, read, set, Bool.false_eq_true, if_false, if_true] at stepped
          cases stepped
          exact .begun found free read set
        | false =>
          simp only [beginTask, read, set, Bool.false_eq_true, if_false] at stepped
          cases stepped
          exact .noExecutor found free read set
    next => cases stepped
  | executed index outcome =>
    simp only [step] at stepped
    split at stepped
    next executing =>
      cases stepped
      cases built : resultOf outcome with
      | some result =>
        simp only [finishExecute, built]
        exact .ended executing built
      | none =>
        simp only [finishExecute, built]
        exact .escaped executing built
    next => cases stepped
  | reported index answer =>
    simp only [step] at stepped
    split at stepped
    next task result found =>
      cases stepped
      cases returns : reportResult cfg.useHttp answer with
      | true => exact .reported found returns
      | false => exact .reportRaised found returns
    next => cases stepped
  | released index =>
    simp only [step] at stepped
    split at stepped
    next releasing =>
      cases stepped
      exact .released releasing
    next => cases stepped

/-- The phase of an entry. -/
theorem phaseAt_of_entry {index : Nat} {task : Task P} {phase : Phase R} (found : s.entries[index]? = some ⟨task, phase⟩) :
    s.phaseAt index = some phase := by
  rw [State.phaseAt, found]
  rfl

end ComputeCloudNode.TaskLoop
