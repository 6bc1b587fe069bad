import ComputeCloudNode.Lib.Runs
import Mathlib.Data.Rat.Defs

/-! One `_run_session_container` thread. A session is started by a pluggable
executor, deep-verified by the self-heal ladder when it is a Docker session,
reported ready, kept alive by a heartbeat loop and reported terminated.

The thread is a machine: a program point waits for the answer of one call (the
executor, the probe, the HTTP client, `_stop_event`), and the step shows the
effect of that call. A run is therefore fixed by the list of answers, and every
list of answers is some behaviour of the world around the thread.

Left out: log lines, sleeps, the session payload, and the clock (whether a
security scan is due is an answer). Starting the tunnel thread is taken to
succeed; what the tunnel does is another machine. -/
namespace ComputeCloudNode.WorkbenchSession

/-- `workbench_executor.py::SessionHandle`. -/
structure SessionHandle where
  hostPort : Nat
  authToken : String
  containerId : Option String := none
  pid : Option Nat := none
  executorType : String := "docker"
  deriving DecidableEq

namespace SessionHandle

def isDocker (handle : SessionHandle) : Bool := handle.executorType == "docker"

/-- `getattr(handle, "container_id", None)` in a condition. -/
def hasContainer (handle : SessionHandle) : Bool :=
  match handle.containerId with
  | none => false
  | some id => id != ""

end SessionHandle

/-- What `hasattr` finds on the executor. -/
structure Executor where
  containerLogs : Bool
  repullImage : Bool
  deriving DecidableEq

/-- `DockerWorkbenchExecutor` has both optional methods. -/
def Executor.docker : Executor := ⟨true, true⟩

/-- `NativeWorkbenchExecutor` has neither. -/
def Executor.native : Executor := ⟨false, false⟩

inductive AlertType
  | miningDetected
  | anomalyCpu
  | suspiciousProcess
  deriving DecidableEq

def AlertType.text : AlertType → String
  | .miningDetected => "mining_detected"
  | .anomalyCpu => "anomaly_cpu"
  | .suspiciousProcess => "suspicious_process"

inductive Severity
  | critical
  | warning
  | info
  deriving DecidableEq

/-- `security_monitor.py::SecurityAlert`. -/
structure SecurityAlert where
  alertType : AlertType
  severity : Severity
  details : String := ""
  processNames : List String := []
  cpuPercent : ℚ := 0
  deriving DecidableEq

/-- A request about the session that the thread sends to the server. -/
inductive Message
  | ready (sessionId : String) (hostPort : Nat) (authToken : String)
  | heartbeat (sessionId : String)
  | alert (sessionId : String) (alert : SecurityAlert)
  | terminated (sessionId reason message : String)
  deriving DecidableEq

/-- What one step does to the outside. A message counts as sent also when the
attempt fails; `ok` is whether the code saw it succeed. -/
inductive Effect
  | quiet
  | started (handle : SessionHandle)
  | stopped (handle : SessionHandle)
  | probed (handle : SessionHandle) (problem : Option String)
  | logsRead (handle : SessionHandle)
  | sent (message : Message) (ok : Bool)
  | registered (handle : SessionHandle)
  | unregistered
  | tunnelStarted (handle : SessionHandle)
  deriving DecidableEq

inductive HeartbeatReply
  | goOn
  | terminate
  /-- Network exception, error status or unreadable body. -/
  | failed
  deriving DecidableEq

/-- The answer of the call a program point waits for. -/
inductive Answer
  | created (executor : Executor)
  | returned
  | raised (text : String)
  | handle (handle : SessionHandle)
  /-- `probe_session_service` returns `None` or a problem; it catches `OSError`. -/
  | probe (problem : Option String)
  | logs (tail : String)
  | http (ok : Bool)
  | monitor (created : Bool)
  | stopEvent (set : Bool)
  | heartbeat (reply : HeartbeatReply)
  /-- `is_session_alive` returns or raises. -/
  | alive (answer : Option Bool)
  | scanDue (due : Bool)
  | scanned (alert : Option SecurityAlert)
  deriving DecidableEq

/-! ## The self-heal ladder -/

/-- The rungs that follow the three first probes: restart the container,
re-pull the image and restart, give up. -/
inductive Rung
  | restart
  | repull
  | giveUp
  deriving DecidableEq

/-- The report of a rung whose `try` block raised. -/
def Rung.failure (text : String) : Rung → String
  | .restart => "container restart failed: " ++ text
  | .repull => "image re-pull/restart failed: " ++ text
  | .giveUp => text

/-- Program points of `_verify_and_heal_session`. -/
inductive HealPc
  | probe (handle : SessionHandle) (attempt : Nat)
  | capture (rung : Rung) (handle : SessionHandle)
  | stop (rung : Rung) (handle : SessionHandle)
  | pull
  | start (rung : Rung)
  | recheck (rung : Rung) (handle : SessionHandle)
  | report (message : String)
  | healed (handle : SessionHandle)
  | failed
  deriving DecidableEq

/-- The ladder's local state: its program point and `last_logs`. -/
structure Heal where
  pc : HealPc
  lastLogs : String := ""
  deriving DecidableEq

/-- The final report of the ladder. -/
def exhausted (lastLogs : String) : String :=
  "Session service did not start (self-heal exhausted). " ++
    if lastLogs != "" then "Container log tail: " ++ lastLogs
    else "Container logs were empty on every rung."

/-- `_capture_logs`: the new value of `last_logs` and the effect. Without a
`container_logs` method nothing is called; a raise counts as an empty tail. -/
def captureLogs (executor : Executor) (handle : SessionHandle) (lastLogs : String) :
    Answer → Option (String × Effect)
  | .returned => if executor.containerLogs then none else some (lastLogs, .quiet)
  | .logs tail =>
    if executor.containerLogs then some (if tail != "" then tail else lastLogs, .logsRead handle)
    else none
  | .raised _ => if executor.containerLogs then some (lastLogs, .logsRead handle) else none
  | _ => none

/-- Where the ladder goes after the logs are captured for a rung. An executor
without `repull_image` skips that rung. -/
def afterCapture (executor : Executor) (handle : SessionHandle) : Rung → HealPc
  | .repull => if executor.repullImage then .stop .repull handle else .capture .giveUp handle
  | rung => .stop rung handle

/-- Where the ladder goes when the probe after a rung fails. -/
def nextRung : Rung → Rung
  | .restart => .repull
  | _ => .giveUp

/-- One step of `_verify_and_heal_session`. -/
def healStep (executor : Executor) (sessionId : String) (heal : Heal) (answer : Answer) :
    Option (Heal × Effect) :=
  match heal.pc, answer with
  | .probe handle attempt, .probe problem =>
    some ({ heal with pc :=
      match problem with
      | none => .healed handle
      | some _ => if attempt + 1 < 3 then .probe handle (attempt + 1) else .capture .restart handle },
      .probed handle problem)
  | .capture rung handle, answer =>
    (captureLogs executor handle heal.lastLogs answer).map fun (lastLogs, effect) =>
      (⟨afterCapture executor handle rung, lastLogs⟩, effect)
  -- The last stop is wrapped in a `try` of its own that swallows the exception.
  | .stop .giveUp handle, .returned => some ({ heal with pc := .report (exhausted heal.lastLogs) }, .stopped handle)
  | .stop .giveUp handle, .raised _ => some ({ heal with pc := .report (exhausted heal.lastLogs) }, .stopped handle)
  | .stop .restart handle, .returned => some ({ heal with pc := .start .restart }, .stopped handle)
  | .stop .repull handle, .returned => some ({ heal with pc := .pull }, .stopped handle)
  | .stop rung handle, .raised text => some ({ heal with pc := .report (rung.failure text) }, .stopped handle)
  | .pull, .returned => some ({ heal with pc := .start .repull }, .quiet)
  | .pull, .raised text => some ({ heal with pc := .report (Rung.repull.failure text) }, .quiet)
  | .start rung, .handle handle => some ({ heal with pc := .recheck rung handle }, .started handle)
  | .start rung, .raised text => some ({ heal with pc := .report (rung.failure text) }, .quiet)
  | .recheck rung handle, .probe problem =>
    some ({ heal with pc :=
      match problem with
      | none => .healed handle
      | some _ => .capture (nextRung rung) handle }, .probed handle problem)
  | .report message, .http ok =>
    some ({ heal with pc := .failed }, .sent (.terminated sessionId "failed" message) ok)
  | _, _ => none

/-! ## The session thread -/

/-- Program points of `_run_session_container`. -/
inductive Pc
  | create
  | start
  | heal (heal : Heal)
  | register (handle : SessionHandle)
  | ready (handle : SessionHandle)
  /-- In the handler of a failed ready report. -/
  | stopUnready (handle : SessionHandle)
  /-- Start the tunnel and build the security monitor. -/
  | launch (handle : SessionHandle)
  | loopTop (handle : SessionHandle)
  | heartbeat (handle : SessionHandle)
  | alive (handle : SessionHandle)
  | scanDue (handle : SessionHandle)
  | scan (handle : SessionHandle)
  | alert (handle : SessionHandle) (alert : SecurityAlert)
  | stopCritical (handle : SessionHandle) (alert : SecurityAlert)
  | pause (handle : SessionHandle)
  /-- After the loop: node stop or termination by the renter. -/
  | stopFinished (handle : SessionHandle)
  /-- About to report the termination; `registered` is whether the exit pops the
  session from `_active_sessions` afterwards. -/
  | report (reason message : String) (registered : Bool)
  | unregister
  | returned
  deriving DecidableEq

structure Thread where
  sessionId : String
  executor : Executor := .docker
  /-- `security_monitor is not None`. -/
  monitored : Bool := false
  pc : Pc := .create
  deriving DecidableEq

/-- The program point after a step of the ladder. -/
def afterHeal (heal : Heal) : Pc :=
  match heal.pc with
  | .healed handle => .register handle
  | .failed => .returned
  | _ => .heal heal

/-- A call whose exception the code swallows. -/
def swallowed (pc : Pc) (effect : Effect) : Answer → Option (Pc × Effect)
  | .returned => some (pc, effect)
  | .raised _ => some (pc, effect)
  | _ => none

/-- One step of the thread at a program point that leaves `executor` and
`security_monitor` alone. -/
def pcStep (thread : Thread) : Pc → Answer → Option (Pc × Effect)
  | .create, .raised text => some (.report "failed" text false, .quiet)
  | .start, .handle handle =>
    some (if handle.isDocker then .heal { pc := .probe handle 0 } else .register handle, .started handle)
  | .start, .raised text => some (.report "failed" text false, .quiet)
  | .heal heal, answer =>
    (healStep thread.executor thread.sessionId heal answer).map fun (heal, effect) =>
      (afterHeal heal, effect)
  | .register handle, .returned => some (.ready handle, .registered handle)
  | .ready handle, .http ok =>
    some (if ok then .launch handle else .stopUnready handle,
      .sent (.ready thread.sessionId handle.hostPort handle.authToken) ok)
  -- This exit leaves the entry of `register` in `_active_sessions`.
  | .stopUnready handle, answer =>
    swallowed (.report "failed" "report ready failed" false) (.stopped handle) answer
  | .loopTop handle, .stopEvent set => some (if set then .stopFinished handle else .heartbeat handle, .quiet)
  | .heartbeat handle, .heartbeat reply =>
    some (match reply with
      | .terminate => .stopFinished handle
      | .goOn => .alive handle
      | .failed => .alive handle,
      .sent (.heartbeat thread.sessionId) (reply != .failed))
  -- This exit reports and unregisters the session without `stop_session`.
  | .alive handle, .alive answer =>
    some (if answer = some true then .scanDue handle
      else .report "completed" "Session process exited" true, .quiet)
  | .scanDue handle, .scanDue due =>
    some (if thread.monitored && handle.hasContainer && due then .scan handle else .pause handle, .quiet)
  | .scan handle, .scanned (some alert) => some (.alert handle alert, .quiet)
  | .scan handle, .scanned none => some (.pause handle, .quiet)
  | .scan handle, .raised _ => some (.pause handle, .quiet)
  | .alert handle alert, .http ok =>
    some (if alert.severity = .critical then .stopCritical handle alert else .pause handle,
      .sent (.alert thread.sessionId alert) ok)
  | .stopCritical handle alert, answer =>
    swallowed (.report alert.alertType.text alert.details true) (.stopped handle) answer
  | .pause handle, .returned => some (.loopTop handle, .quiet)
  | .stopFinished handle, answer =>
    swallowed (.report "completed" "Terminated by renter" true) (.stopped handle) answer
  | .report reason message registered, .http ok =>
    some (if registered then .unregister else .returned,
      .sent (.terminated thread.sessionId reason message) ok)
  | .unregister, .returned => some (.returned, .unregistered)
  | _, _ => none

/-- One step of `_run_session_container`. -/
def step : Runs.Step Thread Answer Effect := fun thread answer =>
  match thread.pc, answer with
  | .create, .created executor => some ({ thread with executor := executor, pc := .start }, .quiet)
  | .launch handle, .monitor created =>
    some ({ thread with monitored := handle.isDocker && created, pc := .loopTop handle },
      .tunnelStarted handle)
  | pc, answer => (pcStep thread pc answer).map fun (pc, effect) => ({ thread with pc := pc }, effect)

/-- The thread `_session_poll_once` spawns. -/
def spawn (sessionId : String) : Thread := { sessionId := sessionId }

end ComputeCloudNode.WorkbenchSession
