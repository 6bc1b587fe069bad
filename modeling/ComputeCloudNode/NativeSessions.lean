import ComputeCloudNode.ExecutorCalls
import ComputeCloudNode.SessionData
import ComputeCloudNode.Values

/-! The processes of a native workbench session, by what `NativeWorkbenchExecutor` asks of the
operating system. A process is started by `Popen` and is over once it was waited for or
killed, or a signal finds it gone. Both `stop_session` and `is_session_alive` take a signal
that is refused for one that finds no process.

Left out: the preparation of the workspace and of the keys, which starts no process and only
may raise. -/
namespace ComputeCloudNode.NativeSessions
open Workbench WorkbenchSession Holdings ExecutorCalls

/-- A child process. Its pid is never zero, which a condition would take for none. -/
structure Process where
  pid : Nat
  positive : 0 < pid
  deriving DecidableEq

/-- The first argument of `Popen`. -/
inductive Arguments
  | shell (command : String)
  | exec (argv : List String)
  deriving DecidableEq

inductive Signal
  /-- Signal 0, which is not sent. -/
  | probe
  | term
  | kill
  deriving DecidableEq

/-- How `os.kill` ends: it returns, or it raises for want of such a process or for another
reason, such as a missing permission. -/
inductive Delivery
  | sent
  | missing
  | refused
  deriving DecidableEq

/-- What the operating system is asked for. -/
inductive OsCall
  | pipInstall
  /-- `Popen`, with the process unless it raises. -/
  | popen (arguments : Arguments) (process : Option Process)
  /-- `proc.terminate`, and whether it returns. -/
  | terminate (process : Process) (returned : Bool)
  /-- `proc.wait(timeout=5.0)`, and whether the process exits in time. -/
  | wait (process : Process) (exited : Bool)
  /-- `proc.kill`, and whether it returns. -/
  | kill (process : Process) (returned : Bool)
  /-- `os.kill`. -/
  | signal (pid : Nat) (signal : Signal) (delivery : Delivery)
  deriving DecidableEq

/-- What one call of `start_session` meets. -/
structure StartAnswers where
  hostPort : Nat
  authToken : String
  /-- Whether anything before the start of the process raises. -/
  prepared : Except String Unit := .ok ()
  windows : Bool := false
  wsDir : String := "/workspace"
  /-- `shutil.which("jupyter")`. -/
  jupyterFound : Bool := true
  /-- `shutil.which("sshd")`. -/
  sshd : Option String := none
  /-- What `Popen` returns, unless it raises. -/
  spawned : Option Process
  /-- `_wait_for_port`. -/
  portOpens : Bool
  terminates : Bool := true
  exits : Bool := true
  killed : Bool := true

/-- `s.replace(old, new)`: `skip` characters of a match are still to be passed over. -/
def replace (old new : List Char) : Nat → List Char → List Char
  | _, [] => []
  | skip + 1, _ :: rest => replace old new skip rest
  | 0, c :: rest =>
    if old.isPrefixOf (c :: rest) then new ++ replace old new (old.length - 1) rest else c :: replace old new 0 rest

def replaceText (old new text : String) : String := String.ofList (replace old.toList new.toList 0 text.toList)

/-- The command line of `_start_jupyter`. -/
def jupyterCommand (command : String) (hostPort : Nat) (wsDir : String) : String :=
  if command ≠ "" then
    replaceText "--port 8888" ("--port " ++ toString hostPort)
      (replaceText "--port=8888" ("--port=" ++ toString hostPort) command)
  else
    "jupyter notebook --ip=0.0.0.0 --port=" ++ toString hostPort ++ " --NotebookApp.token=''" ++
      " --NotebookApp.password='' --no-browser --ServerApp.root_dir=" ++ wsDir

/-- `_start_jupyter`. -/
def startJupyter (command : String) (answers : StartAnswers) : List OsCall × Option Process :=
  ((if answers.jupyterFound then [] else [.pipInstall]) ++
    [.popen (.shell (jupyterCommand command answers.hostPort answers.wsDir)) answers.spawned], answers.spawned)

/-- `_start_sshd`. -/
def startSshd (answers : StartAnswers) : List OsCall × Except String (Option Process) :=
  match answers.sshd with
  | none =>
    ([], .error (if answers.windows then
        "Native SSH requires sshd (not available on Windows). Use Docker executor or Jupyter."
      else "sshd not found. Install openssh-server or use the Docker executor."))
  | some sshdPath =>
    ([.popen (.exec [sshdPath, "-D", "-p", toString answers.hostPort]) answers.spawned], .ok answers.spawned)

/-- `_start_custom`. -/
def startCustom (command : String) (answers : StartAnswers) : List OsCall × Except String (Option Process) :=
  if command = "" then ([], .error "Custom session requires a command")
  else ([.popen (.shell command) answers.spawned], .ok answers.spawned)

/-- `_kill_process`. -/
def killProcess (process : Process) (answers : StartAnswers) : List OsCall :=
  if answers.terminates then
    if answers.exits then [.terminate process true, .wait process true]
    else [.terminate process true, .wait process false, .kill process answers.killed]
  else [.terminate process false, .kill process answers.killed]

section

variable (F : Type) [PyRuntime F]

/-- The start of the process, by the type of the session. -/
def startProcess (payload : SessionData) (answers : StartAnswers) : List OsCall × Except String (Option Process) :=
  if payload.sessionType = "jupyter" then
    let (calls, process) := startJupyter payload.command answers
    (calls, .ok process)
  else if payload.sessionType = "ssh" then startSshd answers
  else if payload.sessionType = "custom" then startCustom payload.command answers
  else ([], .error s!"Unknown session type: {Value.reprStr F payload.sessionType}")

/-- `start_session`. -/
def startSession (payload : SessionData) (answers : StartAnswers) : List OsCall × Except String SessionHandle :=
  match answers.prepared with
  | .error text => ([], .error text)
  | .ok () =>
    match startProcess F payload answers with
    | (calls, .error text) => (calls, .error text)
    | (calls, .ok none) => (calls, .error "Failed to start session process")
    | (calls, .ok (some process)) =>
      if answers.portOpens then (calls, .ok ⟨answers.hostPort, answers.authToken, none, some process.pid, "native"⟩)
      else (calls ++ killProcess process answers, .error "Session port never opened")

end

/-- The pid of a handle in a condition. -/
def pidOf (handle : SessionHandle) : Option Nat := handle.pid.filter (· ≠ 0)

/-- How the two signals of `stop_session` end. -/
structure StopAnswers where
  term : Delivery
  kill : Delivery

/-- `stop_session`. -/
def stopSession (answers : StopAnswers) (handle : SessionHandle) : List OsCall :=
  match pidOf handle with
  | none => []
  | some pid =>
    if answers.term = .sent then [.signal pid .term .sent, .signal pid .kill answers.kill]
    else [.signal pid .term answers.term]

/-- `is_session_alive`, and how its signal ends. -/
def isSessionAlive (delivery : Delivery) (handle : SessionHandle) : List OsCall × Bool :=
  match pidOf handle with
  | none => ([], false)
  | some pid => ([.signal pid .probe delivery], delivery = .sent)

/-- The processes that were neither killed nor seen gone, by their pids. -/
def processes : Ledger OsCall Nat where
  acquires
    | .popen _ process => process.map Process.pid
    | _ => none
  releases
    | .wait process true | .kill process true => some process.pid
    | .signal pid .kill .sent | .signal pid _ .missing => some pid
    | _ => none

/-- `NativeWorkbenchExecutor`, for a session. -/
def nativeHost (F : Type) [PyRuntime F] (payload : SessionData) :
    HostExecutor StartAnswers StopAnswers Delivery OsCall Nat where
  optional := .native
  startSession := startSession F payload
  stopSession := stopSession
  isSessionAlive := isSessionAlive
  ledger := processes
  resource := pidOf

/-- A process whose port does not open exits in time or is killed. -/
def Ends (answers : StartAnswers) : Prop :=
  answers.portOpens = false → (answers.terminates = true ∧ answers.exits = true) ∨ answers.killed = true

/-- Neither signal of `stop_session` is refused. -/
def Obeyed (_ : SessionHandle) (answers : StopAnswers) : Prop :=
  answers.term ≠ .refused ∧ (answers.term = .sent → answers.kill ≠ .refused)

/-- The signal of `is_session_alive` is not refused. -/
def Answered (_ : SessionHandle) (delivery : Delivery) : Prop := delivery ≠ .refused

instance : DecidablePred Ends := fun _ => inferInstanceAs (Decidable (_ → _ ∨ _))

instance (handle : SessionHandle) : DecidablePred (Obeyed handle) := fun _ => inferInstanceAs (Decidable (_ ∧ _))

instance (handle : SessionHandle) : DecidablePred (Answered handle) := fun _ => inferInstanceAs (Decidable (_ ≠ _))

/-! ### The account of one call -/

variable {F : Type} [PyRuntime F] {payload : SessionData} {answers : StartAnswers} {process : Process}
  {handle : SessionHandle}

/-- A process is started at the end, if at all. -/
def Starts (calls : List OsCall) (process : Option Process) : Prop :=
  processes.Settles none calls (process.map Process.pid)

theorem starts_popen (arguments : Arguments) (process : Option Process) : Starts [.popen arguments process] process := by
  cases process with
  | none => exact .idle ⟨rfl, rfl⟩
  | some process => exact .acquire rfl

theorem startJupyter_starts (command : String) (answers : StartAnswers) :
    Starts (startJupyter command answers).1 (startJupyter command answers).2 := by
  have installed : processes.Settles none (if answers.jupyterFound then [] else [.pipInstall]) none := by
    split
    · exact .refl
    · exact .idle ⟨rfl, rfl⟩
  exact installed.trans (starts_popen _ _)

theorem startProcess_starts {calls : List OsCall} {result : Except String (Option Process)}
    (ran : startProcess F payload answers = (calls, result)) :
    (∃ process, result = .ok process ∧ Starts calls process) ∨ (∃ text, result = .error text) ∧ calls = [] := by
  unfold startProcess at ran
  split at ran
  next =>
    cases ran
    exact .inl ⟨_, rfl, startJupyter_starts _ _⟩
  next =>
    split at ran
    next =>
      unfold startSshd at ran
      split at ran
      next =>
        cases ran
        exact .inr ⟨⟨_, rfl⟩, rfl⟩
      next =>
        cases ran
        exact .inl ⟨_, rfl, starts_popen _ _⟩
    next =>
      split at ran
      next =>
        unfold startCustom at ran
        split at ran
        next =>
          cases ran
          exact .inr ⟨⟨_, rfl⟩, rfl⟩
        next =>
          cases ran
          exact .inl ⟨_, rfl, starts_popen _ _⟩
      next =>
        cases ran
        exact .inr ⟨⟨_, rfl⟩, rfl⟩

/-- Every way through `_kill_process` ends the process, unless the kill raises. -/
theorem settles_killProcess (process : Process)
    (ends : (answers.terminates = true ∧ answers.exits = true) ∨ answers.killed = true) :
    processes.Settles (some process.pid) (killProcess process answers) none := by
  unfold killProcess
  have terminated : ∀ returned, processes.Settles (some process.pid) [.terminate process returned] (some process.pid) :=
    fun returned => .idle ⟨rfl, rfl⟩
  by_cases exits : answers.terminates = true ∧ answers.exits = true
  · rw [if_pos exits.1, if_pos exits.2]
    exact (terminated true).trans (.release rfl rfl)
  · have killed : processes.Settles (some process.pid) [.kill process answers.killed] none := by
      rw [ends.resolve_left exits]
      exact .release rfl rfl
    split
    next returned =>
      rw [if_neg fun exited => exits ⟨returned, exited⟩]
      have waited : processes.Settles (some process.pid) [.wait process false] (some process.pid) := .idle ⟨rfl, rfl⟩
      exact (terminated true).trans (waited.trans killed)
    next => exact (terminated false).trans killed

theorem pidOf_some (same : handle.pid = some process.pid) : pidOf handle = some process.pid := by
  rw [pidOf, same, Option.filter_some]
  simp [process.positive.ne']

theorem settles_stop {answers : StopAnswers} (handle : SessionHandle) (obeyed : Obeyed handle answers) :
    processes.Settles (pidOf handle) (stopSession answers handle) none := by
  obtain ⟨term, kill⟩ := answers
  unfold stopSession
  cases pidOf handle with
  | none => exact .refl
  | some pid =>
    cases term with
    | sent =>
      have terminated : processes.Settles (some pid) [.signal pid .term .sent] (some pid) := .idle ⟨rfl, rfl⟩
      refine terminated.trans (.release rfl ?_)
      cases kill with
      | sent | missing => rfl
      | refused => exact absurd rfl (obeyed.2 rfl)
    | missing => exact .release rfl rfl
    | refused => exact absurd rfl obeyed.1

theorem settles_check {delivery : Delivery} (handle : SessionHandle) (answered : Answered handle delivery) :
    processes.Settles (pidOf handle) (isSessionAlive delivery handle).1
      (if (isSessionAlive delivery handle).2 then pidOf handle else none) := by
  unfold isSessionAlive
  cases pidOf handle with
  | none => exact .refl
  | some pid =>
    cases delivery with
    | sent => exact .idle ⟨rfl, rfl⟩
    | missing => exact .release rfl rfl
    | refused => exact absurd rfl answered

/-- A start that fails leaves no process, and one that succeeds leaves that of its handle. -/
theorem startSession_settles (payload : SessionData) (ends : Ends answers) :
    (∃ calls text, startSession F payload answers = (calls, .error text) ∧ processes.Settles none calls none) ∨
    ∃ calls handle, startSession F payload answers = (calls, .ok handle) ∧ (pidOf handle).isSome ∧
      processes.Settles none calls (pidOf handle) := by
  unfold startSession
  cases answers.prepared with
  | error text => exact .inl ⟨[], text, rfl, .refl⟩
  | ok prepared =>
    dsimp only
    generalize started : startProcess F payload answers = start
    obtain ⟨calls, result⟩ := start
    rcases startProcess_starts started with ⟨process, rfl, starts⟩ | ⟨⟨text, rfl⟩, rfl⟩
    · cases process with
      | none => exact .inl ⟨calls, _, rfl, starts⟩
      | some process =>
        by_cases opens : answers.portOpens = true
        · have pid : pidOf ⟨answers.hostPort, answers.authToken, none, some process.pid, "native"⟩ = some process.pid :=
            pidOf_some rfl
          refine .inr ⟨calls, ⟨answers.hostPort, answers.authToken, none, some process.pid, "native"⟩, ?_, ?_, ?_⟩
          · simp [opens]
          · rw [pid]
            rfl
          · rw [pid]
            exact starts
        · refine .inl ⟨calls ++ killProcess process answers, "Session port never opened", ?_, ?_⟩
          · simp [opens]
          · exact starts.trans (settles_killProcess process (ends (Bool.eq_false_iff.mpr opens)))
    · exact .inl ⟨[], text, rfl, .refl⟩

theorem alive_answered {delivery : Delivery} (alive : (isSessionAlive delivery handle).2 = true) :
    Answered handle delivery := by
  rintro rfl
  unfold isSessionAlive at alive
  split at alive <;> cases alive

variable (F payload) in
theorem nativeHost_accountable :
    Accountable (nativeHost F payload) Ends Obeyed Answered where
  started := by
    intro answers calls handle started ends
    change startSession F payload answers = _ at started
    rcases startSession_settles (F := F) payload ends with ⟨_, _, same, _⟩ | ⟨_, _, same, some_, settles⟩ <;>
      rw [same] at started <;> cases started
    exact ⟨settles, some_⟩
  failed := by
    intro answers calls text failed ends
    change startSession F payload answers = _ at failed
    rcases startSession_settles (F := F) payload ends with ⟨_, _, same, settles⟩ | ⟨_, _, same, _⟩ <;>
      rw [same] at failed <;> cases failed
    exact settles
  stopped := fun _ handle obeyed => settles_stop handle obeyed
  alive := by
    intro delivery handle alive
    change (isSessionAlive delivery handle).2 = true at alive
    have settles := @settles_check delivery handle (alive_answered alive)
    rw [alive] at settles
    exact settles
  dead := by
    intro delivery handle dead answered
    have settles := settles_check handle answered
    change (isSessionAlive delivery handle).2 = false at dead
    rw [dead] at settles
    exact settles

/-! ### All runs -/

variable {sessionId : String} {inputs : List (Input StartAnswers StopAnswers Delivery)} {thread : Thread}
  {outputs : List (List OsCall)}

/-- As long as no signal is refused, a session never has two processes, and when its thread
has returned it has none. -/
theorem one_process
    (permitted : Runs.Meets (step (nativeHost F payload)) (Orderly Ends Obeyed Answered) (spawn sessionId) inputs)
    (ran : Runs.run (step (nativeHost F payload)) (spawn sessionId) inputs = some (thread, outputs)) :
    (∀ first second, processes.Held first outputs.flatten → processes.Held second outputs.flatten → first = second) ∧
      (thread.pc = .returned → ∀ pid, ¬ processes.Held pid outputs.flatten) := by
  have owes := (run_balanced (nativeHost_accountable F payload) permitted ran).owes
  constructor
  · intro first second held held'
    exact Option.some.inj (((owes first).mp held).symm.trans ((owes second).mp held'))
  · intro done pid
    rw [done] at owes
    exact owes.nothing

def customSession : SessionData where
  dockerImage := ""
  command := "python serve.py"
  sessionType := "custom"

def served : StartAnswers where
  hostPort := 4000
  authToken := "token"
  spawned := some ⟨17, by decide⟩
  portOpens := true

/-- The process is gone when the node looks for it. -/
def gone : List (Input StartAnswers StopAnswers Delivery) :=
  [.other (.created .native), .starts served, .other .returned, .other (.http true), .other (.monitor false),
    .other (.stopEvent false), .other (.heartbeat .goOn), .checks .missing, .other (.http true), .other .returned]

theorem one_process_gone : ∃ thread outputs,
    Runs.run (step (nativeHost Int customSession)) (spawn "s") gone = some (thread, outputs) ∧
      ∀ pid, ¬ processes.Held pid outputs.flatten := by
  obtain ⟨outputs, ran⟩ : ∃ outputs, Runs.run (step (nativeHost Int customSession)) (spawn "s") gone =
      some ({ spawn "s" with executor := .native, pc := .returned }, outputs) := ⟨_, rfl⟩
  have permitted : Runs.Meets (step (nativeHost Int customSession)) (Orderly Ends Obeyed Answered) (spawn "s") gone := by
    decide +kernel
  exact ⟨_, outputs, ran, (one_process permitted ran).2 rfl⟩

end ComputeCloudNode.NativeSessions
