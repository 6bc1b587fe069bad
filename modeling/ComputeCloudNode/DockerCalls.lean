import ComputeCloudNode.ExecutorCalls
import ComputeCloudNode.SessionContainers

/-! The containers of a Docker workbench session, by the calls of the Docker CLI. A container
is created by `docker run`, and `docker rm` is called to remove it; only its id connects the
two, so no `docker rm` is called for what a `docker run` creates that then fails.
`_stop_container` and `is_session_alive` catch whatever the CLI raises.

Left out: `docker image inspect` and `docker pull`, which are about images, and whether
`docker stop` and `docker rm` succeed, which `_stop_container` does not look at. -/
namespace ComputeCloudNode.DockerCalls
open Workbench WorkbenchSession DockerWorkbench Holdings ExecutorCalls

variable {F : Type} [PyRuntime F]

/-- A call of the Docker CLI about a container. -/
inductive DockerCall
  /-- `docker run`, and whether it left a container behind although it failed. -/
  | run (args : List String) (ending : DockerRun) (left : Bool)
  | exec (containerId script : String)
  | inspect (containerId : String)
  | stop (containerId : String)
  | remove (containerId : String)

/-- What `start_session` is given. -/
structure SessionStart (F : Type) where
  docker : String
  notebook : String
  payload : SessionData
  resources : Resources F

/-- What one call of `start_session` meets. -/
structure StartAnswers where
  launch : Launch
  left : Bool := false
  /-- Whether an attempt of `docker exec` exits with 0. -/
  succeeds : Nat → Bool := fun _ => true

/-- `_stop_container`. -/
def stopContainer (containerId : String) : List DockerCall := [.stop containerId, .remove containerId]

/-- `_run_startup_parts_docker`, with the attempts that are left. -/
def runStartupPartsDocker (containerId script : String) (succeeds : Nat → Bool) : List Nat → List DockerCall
  | [] => []
  | attempt :: attempts =>
    .exec containerId script ::
      if succeeds attempt then [] else runStartupPartsDocker containerId script succeeds attempts

/-- The calls after the port has opened. -/
def afterStart (session : SessionStart F) (answers : StartAnswers) (containerId : String) : List DockerCall :=
  let startupParts := buildStartupParts session.notebook session.payload
  if session.payload.sessionType = "ssh" ∧ session.payload.command = "" ∧ startupParts ≠ [] then
    runStartupPartsDocker containerId (script startupParts) answers.succeeds [0, 1, 2]
  else []

/-- The arguments of `docker run`, unless they cannot be built. -/
def SessionStart.runArgs (session : SessionStart F) (answers : StartAnswers) : Except String (List String) :=
  dockerCmd session.docker answers.launch.hostPort session.resources session.notebook session.payload
    answers.launch.inspect

/-- `start_session`, with its calls. -/
def startSessionCalls (session : SessionStart F) (answers : StartAnswers) : List DockerCall × Except String SessionHandle :=
  match session.runArgs answers with
  | .error text => ([], .error text)
  | .ok args =>
    let run := .run args answers.launch.run answers.left
    match runDocker answers.launch.run with
    | .error text => ([run], .error text)
    | .ok containerId =>
      if answers.launch.portOpens then
        (run :: afterStart session answers containerId,
          .ok ⟨answers.launch.hostPort, answers.launch.authToken, some containerId, none, "docker"⟩)
      else (run :: stopContainer containerId, .error "Container port never opened")

/-- The id of a handle in a condition. -/
def idOf (handle : SessionHandle) : Option String := handle.containerId.filter (· ≠ "")

/-- `stop_session`. -/
def stopSession (handle : SessionHandle) : List DockerCall :=
  match idOf handle with
  | some containerId => stopContainer containerId
  | none => []

/-- `is_session_alive`. The answer is the exit code and the output of `docker inspect`, if it
does not raise. -/
def isSessionAlive (inspected : Option (Int × String)) (handle : SessionHandle) : List DockerCall × Bool :=
  match idOf handle with
  | none => ([], false)
  | some containerId =>
    ([.inspect containerId],
      match inspected with
      | some (returncode, stdout) => returncode = 0 && strip stdout = "true"
      | none => false)

/-- The containers, by their ids, until `docker rm` is called for them, whatever it answers.
One without an id is one that the node never heard of. -/
def containers : Ledger DockerCall (Option String) where
  acquires
    | .run _ ending left =>
      match runDocker ending with
      | .ok containerId => if containerId = "" then some none else some (some containerId)
      | .error _ => if left then some none else none
    | _ => none
  releases
    | .remove containerId => some (some containerId)
    | _ => none

/-- `DockerWorkbenchExecutor`, for a session. -/
def dockerHost (session : SessionStart F) :
    HostExecutor StartAnswers Unit (Option (Int × String)) DockerCall (Option String) where
  optional := .docker
  startSession := startSessionCalls session
  stopSession _ := stopSession
  isSessionAlive := isSessionAlive
  ledger := containers
  resource handle := (idOf handle).map some

/-- If `docker run` is called, it reports the container that it creates. -/
def Reported (session : SessionStart F) (answers : StartAnswers) : Prop :=
  (session.runArgs answers).isOk → runDocker answers.launch.run ≠ .ok "" ∧
    ((runDocker answers.launch.run).isOk = false → answers.left = false)

instance (session : SessionStart F) : DecidablePred (Reported session) := fun _ => inferInstanceAs (Decidable (_ → _ ∧ _))

/-- The session is seen running. -/
def SeenRunning (handle : SessionHandle) (inspected : Option (Int × String)) : Prop :=
  (isSessionAlive inspected handle).2 = true

instance (handle : SessionHandle) : DecidablePred (SeenRunning handle) := fun _ => inferInstanceAs (Decidable (_ = _))

/-! ### The account of one call -/

variable {session : SessionStart F} {answers : StartAnswers} {handle : SessionHandle} {inspected : Option (Int × String)}

omit [PyRuntime F] in
theorem afterStart_idle (containerId : String) : ∀ call ∈ afterStart session answers containerId, containers.Idle call := by
  have exec : ∀ (script : String) attempts,
      ∀ call ∈ runStartupPartsDocker containerId script answers.succeeds attempts, containers.Idle call := by
    intro script attempts
    induction attempts with
    | nil => exact nofun
    | cons attempt attempts ih =>
      rw [runStartupPartsDocker]
      intro call member
      rcases List.mem_cons.mp member with rfl | later
      · exact ⟨rfl, rfl⟩
      · split at later
        next => cases later
        next => exact ih call later
  unfold afterStart
  dsimp only
  split
  next => exact exec _ _
  next => exact nofun

theorem settles_stop (containerId : String) :
    containers.Settles (some (some containerId)) (stopContainer containerId) none :=
  (Ledger.Settles.idle ⟨rfl, rfl⟩).trans (.release rfl rfl)

theorem settles_run {args : List String} {ending : DockerRun} {left : Bool} {containerId : String}
    (ran : runDocker ending = .ok containerId) (named : containerId ≠ "") :
    containers.Settles none [.run args ending left] (some (some containerId)) :=
  .acquire (by simp [containers, ran, named])

/-- A start ends before `docker run`, with it, or after the wait for the port. -/
theorem startSessionCalls_cases (session : SessionStart F) (answers : StartAnswers) :
    (∃ text, session.runArgs answers = .error text ∧ startSessionCalls session answers = ([], .error text)) ∨
    (∃ args text, session.runArgs answers = .ok args ∧ runDocker answers.launch.run = .error text ∧
      startSessionCalls session answers = ([.run args answers.launch.run answers.left], .error text)) ∨
    (∃ args containerId, session.runArgs answers = .ok args ∧ runDocker answers.launch.run = .ok containerId ∧
      ((∃ handle, handle.containerId = some containerId ∧ startSessionCalls session answers =
          ([.run args answers.launch.run answers.left] ++ afterStart session answers containerId, .ok handle)) ∨
        ∃ text, startSessionCalls session answers =
          ([.run args answers.launch.run answers.left] ++ stopContainer containerId, .error text))) := by
  unfold startSessionCalls
  cases built : session.runArgs answers with
  | error text => exact .inl ⟨text, rfl, rfl⟩
  | ok args =>
    cases ran : runDocker answers.launch.run with
    | error text => exact .inr (.inl ⟨args, text, rfl, rfl, rfl⟩)
    | ok containerId =>
      refine .inr (.inr ⟨args, containerId, rfl, rfl, ?_⟩)
      by_cases opens : answers.launch.portOpens = true
      · refine .inl ⟨⟨answers.launch.hostPort, answers.launch.authToken, some containerId, none, "docker"⟩, rfl, ?_⟩
        simp [opens]
      · refine .inr ⟨"Container port never opened", ?_⟩
        simp [opens]

theorem Reported.named (reported : Reported session answers) {args : List String} {containerId : String}
    (built : session.runArgs answers = .ok args) (ran : runDocker answers.launch.run = .ok containerId) :
    containerId ≠ "" := by
  rintro rfl
  exact (reported (by rw [built]; rfl)).1 ran

theorem Reported.nothing_left (reported : Reported session answers) {args : List String} {text : String}
    (built : session.runArgs answers = .ok args) (failed : runDocker answers.launch.run = .error text) :
    answers.left = false :=
  (reported (by rw [built]; rfl)).2 (by rw [failed]; rfl)

omit [PyRuntime F] in
theorem idOf_some {containerId : String} (named : containerId ≠ "") (same : handle.containerId = some containerId) :
    idOf handle = some containerId := by
  rw [idOf, same, Option.filter_some]
  simp [named]

theorem settles_check (inspected : Option (Int × String)) (handle : SessionHandle) (owed : Option (Option String)) :
    containers.Settles owed (isSessionAlive inspected handle).1 owed := by
  unfold isSessionAlive
  split
  next => exact .refl
  next => exact .idle ⟨rfl, rfl⟩

/-- No `docker rm` is called for a container that the node never heard of. -/
theorem unreported_held (unreported : ¬ Reported session answers) :
    containers.Held none (startSessionCalls session answers).1 := by
  have kept : ∀ call, containers.releases call ≠ some none := by
    rintro (_ | _ | _ | _ | _) <;> simp [containers]
  simp only [Reported, Classical.not_imp] at unreported
  obtain ⟨ok, wrong⟩ := unreported
  rcases startSessionCalls_cases session answers with ⟨text, built, _⟩ | ⟨args, text, built, refused, same⟩ |
    ⟨args, containerId, built, ran, ⟨handle, _, same⟩ | ⟨text, same⟩⟩
  · rw [built] at ok
    cases ok
  · have left : answers.left = true := by
      rw [refused] at wrong
      simpa [Except.isOk, Except.toBool] using wrong
    rw [same]
    exact ⟨[], _, [], rfl, by simp [containers, refused, left], by simp⟩
  all_goals
    have unnamed : containerId = "" := by
      rw [ran] at wrong
      simpa [Except.isOk, Except.toBool] using wrong
    rw [same]
    refine Ledger.Held.append ⟨[], _, [], rfl, ?_, by simp⟩ fun call _ => kept call
    simp [containers, ran, unnamed]

theorem dockerHost_conclusive (session : SessionStart F) :
    Conclusive (dockerHost session) (Reported session) SeenRunning where
  started := by
    intro answers calls handle started reported
    change startSessionCalls session answers = _ at started
    rcases startSessionCalls_cases session answers with ⟨text, _, same⟩ | ⟨args, text, _, _, same⟩ |
      ⟨args, containerId, built, ran, ⟨own, identified, same⟩ | ⟨text, same⟩⟩ <;> rw [same] at started <;> cases started
    have named := reported.named built ran
    have resource : (dockerHost session).resource handle = some (some containerId) := by
      change (idOf handle).map some = _
      rw [idOf_some named identified]
      rfl
    rw [resource]
    exact ⟨(settles_run ran named).trans (.all_idle (afterStart_idle containerId)), rfl⟩
  failed := by
    intro answers calls text failed reported
    change startSessionCalls session answers = _ at failed
    rcases startSessionCalls_cases session answers with ⟨text, _, same⟩ | ⟨args, text, built, refused, same⟩ |
      ⟨args, containerId, built, ran, ⟨own, _, same⟩ | ⟨text, same⟩⟩ <;> rw [same] at failed <;> cases failed
    · exact .refl
    · refine .idle ⟨?_, rfl⟩
      simp [dockerHost, containers, refused, reported.nothing_left built refused]
    · exact (settles_run ran (reported.named built ran)).trans (settles_stop containerId)
  untidy := by
    intro answers unreported
    refine ⟨none, unreported_held unreported, ?_⟩
    rintro (_ | _ | _ | _ | _) <;> exact nofun
  stopped := by
    intro answers handle _
    change containers.Settles ((idOf handle).map some) (stopSession handle) none
    unfold stopSession
    cases idOf handle with
    | none => exact .refl
    | some containerId => exact settles_stop containerId
  alive := fun answers handle _ => settles_check answers handle _
  dead := fun answers handle dead seen => absurd (seen.symm.trans dead) (by decide)
  abandoned := fun answers handle unseen => ⟨Bool.eq_false_iff.mpr unseen, settles_check answers handle _⟩

/-! ### All runs -/

variable {sessionId : String} {inputs : List (Input StartAnswers Unit (Option (Int × String)))} {thread : Thread}
  {outputs : List (List DockerCall)}

/-- When a session thread has returned, `docker rm` was called for every container that
`docker run` created for it, exactly if each `docker run` reported the id of what it created
and each liveness check found the container running. -/
theorem removal_called_iff
    (ran : Runs.run (step (dockerHost session)) (spawn sessionId) inputs = some (thread, outputs))
    (done : thread.pc = .returned) :
    (∀ container, ¬ containers.Held container outputs.flatten) ↔
      Runs.Meets (step (dockerHost session)) (Orderly (Reported session) (fun _ _ => True) SeenRunning) (spawn sessionId)
        inputs :=
  returned_settled_iff (dockerHost_conclusive session) ran done

def jupyterStart : SessionStart Int where
  docker := "docker"
  notebook := ""
  payload := { dockerImage := "jupyter", command := "lab" }
  resources := jupyterResources

def launched : StartAnswers where
  launch :=
    { hostPort := 4000, authToken := "token", inspect := .failed, run := .exited 0 "c0ffee\n" "", portOpens := true }

/-- A session up to its first round of the heartbeat loop. -/
def untilReady : List (Input StartAnswers Unit (Option (Int × String))) :=
  [.other (.created .docker), .starts launched, .other (.probe none), .other .returned, .other (.http true),
    .other (.monitor true)]

/-- The node stops. -/
def stopped : List (Input StartAnswers Unit (Option (Int × String))) :=
  untilReady ++ [.other (.stopEvent true), .stops (), .other (.http true), .other .returned]

/-- `docker inspect` raises. -/
def unseen : List (Input StartAnswers Unit (Option (Int × String))) :=
  untilReady ++ [.other (.stopEvent false), .other (.heartbeat .goOn), .checks none, .other (.http true), .other .returned]

theorem removal_called_iff_jupyter :
    (∃ thread outputs, Runs.run (step (dockerHost jupyterStart)) (spawn "s") stopped = some (thread, outputs) ∧
      ∀ container, ¬ containers.Held container outputs.flatten) ∧
    ∃ thread outputs, Runs.run (step (dockerHost jupyterStart)) (spawn "s") unseen = some (thread, outputs) ∧
      ¬ ∀ container, ¬ containers.Held container outputs.flatten := by
  constructor
  · obtain ⟨outputs, ran⟩ : ∃ outputs, Runs.run (step (dockerHost jupyterStart)) (spawn "s") stopped =
        some ({ spawn "s" with monitored := true, pc := .returned }, outputs) := ⟨_, rfl⟩
    refine ⟨_, outputs, ran, (removal_called_iff ran rfl).mpr ?_⟩
    decide +kernel
  · obtain ⟨outputs, ran⟩ : ∃ outputs, Runs.run (step (dockerHost jupyterStart)) (spawn "s") unseen =
        some ({ spawn "s" with monitored := true, pc := .returned }, outputs) := ⟨_, rfl⟩
    refine ⟨_, outputs, ran, fun called => ?_⟩
    have met := (removal_called_iff ran rfl).mp called
    revert met
    decide +kernel

end ComputeCloudNode.DockerCalls
