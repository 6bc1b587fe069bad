import ComputeCloudNode.DockerExecutor
import ComputeCloudNode.SessionReports

/-! What the container of a Docker session runs when the session is reported ready. A
session without a command is to run what its image runs, for `ssh` as it is and otherwise
at the end of the startup script; but where `docker image inspect` names nothing the
script ends in an idle `tail`. Only the banner that is expected of `ssh` could tell
the difference; for the other types a connection is enough, and Docker's proxy
accepts it.

What Docker and the shell of the container do with a command line is a parameter; the
script of the payload may also stay with a process of its own, or never come to its end. -/
namespace ComputeCloudNode.DockerWorkbench
open Workbench WorkbenchSession

/-! ### What a container comes to run -/

/-- Docker, and the shell in a container of the image. -/
structure Runtime where
  /-- The command line of the main process once the startup is over, by what stands at the
  end of `docker run`, from the image on. -/
  mainProcess : List String → List String
  /-- The image has no entrypoint, or one that runs the command it is given. -/
  handsOver : Prop
  /-- The process that a script stays with, or nothing if the script comes to its end. -/
  staysWith : String → Option (List String)
  /-- The process that the last command of a shell is. -/
  lastCommand : String → List String

/-- The process that is left when a script and a command after it have been started. -/
def Runtime.sequence (runtime : Runtime) (script command : String) : List String :=
  (runtime.staysWith script).getD (runtime.lastCommand command)

/-- What is documented of Docker and of the shell, for an image, the command line that the
image runs by itself, and a startup script. -/
structure Runtime.Documented (runtime : Runtime) (image : String) (own : List String) (script : String) : Prop where
  /-- Without a command the image runs its own. -/
  plain : runtime.mainProcess [image] = own
  /-- The entrypoint runs `/bin/sh`, which runs the command after the script. -/
  shell : runtime.handsOver → ∀ command,
    runtime.mainProcess [image, "/bin/sh", "-c", s!"{script} ; {command}"] = runtime.sequence script command
  /-- An entrypoint that takes the arguments for itself has not run the image's command. -/
  other : ¬ runtime.handsOver → ∀ text, runtime.mainProcess [image, "/bin/sh", "-c", text] ≠ own
  /-- `exec` replaces the shell by the image's command, if that is what the words say that follow. -/
  exec : own ≠ [] → ∀ text, ShellWords.words text = some (own.map String.toList) →
    runtime.lastCommand ("exec " ++ String.ofList text) = own
  idle : runtime.lastCommand "tail -f /dev/null" ≠ own

variable {runtime : Runtime} {own : List String} {notebook : String} {payload : SessionData} {inspect : Inspect}

/-- The container comes to run what the image runs by itself: its startup script is left
out, or it comes to its end and the entrypoint and command of the image are known, or it
stays with just that process. -/
def KeepsImage (runtime : Runtime) (own : List String) (notebook : String) (payload : SessionData) (inspect : Inspect) :
    Prop :=
  payload.sessionType = "ssh" ∨ (payload.workspace = none ∧ payload.poolEnv = []) ∨
    runtime.handsOver ∧
      ((runtime.staysWith (script (buildStartupParts notebook payload)) = none ∧ imageEntrypoint inspect ≠ []) ∨
        runtime.staysWith (script (buildStartupParts notebook payload)) = some own)

theorem startupParts_eq_nil_iff (other : payload.sessionType ≠ "ssh") :
    buildStartupParts notebook payload = [] ↔ payload.workspace = none ∧ payload.poolEnv = [] := by
  rw [buildStartupParts]
  cases payload.workspace with
  | none => by_cases env : payload.poolEnv = [] <;> simp [other, env]
  | some block => simp

/-- What is run after the startup script. -/
def finalCommand (inspect : Inspect) : String :=
  if imageEntrypoint inspect ≠ [] then
    "exec " ++ String.ofList (ShellWords.join ((imageEntrypoint inspect).map String.toList))
  else "tail -f /dev/null"

theorem containerCommand_plain (empty : payload.command = "")
    (plain : payload.sessionType = "ssh" ∨ buildStartupParts notebook payload = []) :
    containerCommand notebook payload inspect = [payload.dockerImage] := by
  rw [containerCommand]
  by_cases ssh : payload.sessionType = "ssh"
  · exact if_pos ⟨ssh, empty⟩
  · have nothing := plain.resolve_left ssh
    dsimp only
    rw [if_neg fun both => ssh both.1, empty, if_neg fun known => known.1 nothing, buildFinalCommand,
      if_neg (not_not.mpr nothing), if_neg (by simp)]

theorem containerCommand_script (empty : payload.command = "") (other : payload.sessionType ≠ "ssh")
    (parts : buildStartupParts notebook payload ≠ []) :
    containerCommand notebook payload inspect = [payload.dockerImage, "/bin/sh", "-c",
      s!"{script (buildStartupParts notebook payload)} ; {finalCommand inspect}"] := by
  rw [containerCommand, finalCommand]
  dsimp only
  rw [if_neg fun both => other both.1, empty]
  by_cases known : imageEntrypoint inspect ≠ []
  · rw [if_pos ⟨parts, rfl, known⟩, if_pos known, buildFinalCommand, if_pos parts, if_pos (by simp)]
  · rw [if_neg fun all => known all.2.2, if_neg known, buildFinalCommand, if_pos parts, if_neg (by simp)]
    change [payload.dockerImage, "/bin/sh", "-c", script (buildStartupParts notebook payload) ++ " ; tail -f /dev/null"] =
      [payload.dockerImage, "/bin/sh", "-c", script (buildStartupParts notebook payload) ++ " ; " ++ "tail -f /dev/null"]
    rw [String.append_assoc]
    rfl

/-- If the entrypoint and command of the image are known, they are the last command. -/
theorem lastCommand_eq_own_iff {image script : String} (documented : runtime.Documented image own script)
    (truthful : imageEntrypoint inspect ≠ [] → imageEntrypoint inspect = own) :
    runtime.lastCommand (finalCommand inspect) = own ↔ imageEntrypoint inspect ≠ [] := by
  rw [finalCommand]
  by_cases known : imageEntrypoint inspect ≠ []
  · rw [if_pos known, truthful known]
    exact iff_of_true (documented.exec (truthful known ▸ known) _ (ShellWords.words_join _)) (truthful known ▸ known)
  · rw [if_neg known]
    exact ⟨fun same => absurd same documented.idle, fun some_ => absurd some_ known⟩

/-- A container is started so that it comes to run its image's own command exactly if the
payload keeps the image. -/
theorem mainProcess_eq_own_iff (empty : payload.command = "")
    (documented : runtime.Documented payload.dockerImage own (script (buildStartupParts notebook payload)))
    (truthful : imageEntrypoint inspect ≠ [] → imageEntrypoint inspect = own) :
    runtime.mainProcess (containerCommand notebook payload inspect) = own ↔
      KeepsImage runtime own notebook payload inspect := by
  by_cases plain : payload.sessionType = "ssh" ∨ buildStartupParts notebook payload = []
  · rw [containerCommand_plain empty plain]
    refine iff_of_true documented.plain ?_
    by_cases ssh : payload.sessionType = "ssh"
    · exact .inl ssh
    · exact .inr (.inl ((startupParts_eq_nil_iff ssh).mp (plain.resolve_left ssh)))
  · obtain ⟨other, parts⟩ := not_or.mp plain
    have blocks : ¬ (payload.workspace = none ∧ payload.poolEnv = []) :=
      fun missing => parts ((startupParts_eq_nil_iff other).mpr missing)
    rw [containerCommand_script empty other parts, KeepsImage, or_iff_right other, or_iff_right blocks]
    by_cases hands : runtime.handsOver
    · rw [documented.shell hands, Runtime.sequence, and_iff_right hands]
      cases stays : runtime.staysWith (script (buildStartupParts notebook payload)) with
      | none => simpa using lastCommand_eq_own_iff documented truthful
      | some process => simp
    · exact iff_of_false (documented.other hands _) fun both => hands both.1

/-- What `docker image inspect` answered when a container was started, and the image
and command that it was started with. -/
structure Container where
  inspect : Inspect
  command : List String
  deriving DecidableEq

/-- The thread of a Docker session and the container that was started last. -/
structure Session where
  thread : Thread
  container : Option Container := none
  deriving DecidableEq

inductive Input
  | launch (launch : Launch)
  | probe (connection : Connection)
  | other (answer : Answer)

/-- The thread is about to call `start_session`. -/
def startsNext : Pc → Bool
  | .start => true
  | .heal ⟨.start _, _⟩ => true
  | _ => false

/-- An answer that only `start_session` or the probe gives. -/
def fromExecutor : Answer → Bool
  | .handle _ => true
  | .probe _ => true
  | _ => false

/-- One step of the session thread, with `start_session` and the probe run on what they
meet. -/
def step (notebook : String) (payload : SessionData) : Runs.Step Session Input Effect
  | session, .launch launch =>
    if startsNext session.thread.pc then
      match startSession launch with
      | .ok handle =>
        (WorkbenchSession.step session.thread (.handle handle)).map fun (thread, effect) =>
          (⟨thread, some ⟨launch.inspect, containerCommand notebook payload launch.inspect⟩⟩, effect)
      | .error text =>
        (WorkbenchSession.step session.thread (.raised text)).map fun (thread, effect) =>
          ({ session with thread := thread }, effect)
    else none
  | session, .probe connection =>
    (WorkbenchSession.step session.thread (.probe (probeSessionService payload.sessionType connection))).map
      fun (thread, effect) => ({ session with thread := thread }, effect)
  | session, .other answer =>
    if fromExecutor answer then none
    else
      (WorkbenchSession.step session.thread answer).map fun (thread, effect) =>
        ({ session with thread := thread }, effect)

/-- The session once its Docker executor is there. -/
def begin (sessionId : String) : Session := { thread := { spawn sessionId with pc := .start } }

variable {session session' : Session} {input : Input} {effect : Effect}

/-- A step that is not the start of a container leaves the last one. -/
theorem step_cases (stepped : step notebook payload session input = some (session', effect)) :
    ∃ answer, WorkbenchSession.step session.thread answer = some (session'.thread, effect) ∧
      ((∃ launch, input = .launch launch ∧
          session'.container = some ⟨launch.inspect, containerCommand notebook payload launch.inspect⟩) ∨
        answer.startsSession = false ∧ session'.container = session.container) := by
  cases input with
  | launch launch =>
    rw [step, Option.ite_none_right_eq_some] at stepped
    obtain ⟨_, stepped⟩ := stepped
    cases started : startSession launch with
    | ok handle =>
      simp only [started, Option.map_eq_some_iff, Prod.exists, Prod.mk.injEq] at stepped
      obtain ⟨thread, shown, moved, rfl, rfl⟩ := stepped
      exact ⟨_, moved, .inl ⟨launch, rfl, rfl⟩⟩
    | error text =>
      simp only [started, Option.map_eq_some_iff, Prod.exists, Prod.mk.injEq] at stepped
      obtain ⟨thread, shown, moved, rfl, rfl⟩ := stepped
      exact ⟨_, moved, .inr ⟨rfl, rfl⟩⟩
  | probe connection =>
    simp only [step, Option.map_eq_some_iff, Prod.exists, Prod.mk.injEq] at stepped
    obtain ⟨thread, shown, moved, rfl, rfl⟩ := stepped
    exact ⟨_, moved, .inr ⟨rfl, rfl⟩⟩
  | other answer =>
    simp only [step, Option.ite_none_left_eq_some, Option.map_eq_some_iff, Prod.exists, Prod.mk.injEq] at stepped
    obtain ⟨outside, thread, shown, moved, rfl, rfl⟩ := stepped
    refine ⟨_, moved, .inr ⟨?_, rfl⟩⟩
    cases answer with
    | handle => exact absurd rfl outside
    | _ => rfl

/-- The start of a container is preceded by an answer of `docker image inspect`, and the
server's port proxy accepts every connection. -/
def Input.Allowed (possible : Inspect → Prop) : Input → Prop
  | .launch met => possible met.inspect
  | .probe (.refused _) => False
  | _ => True

/-- A thread that holds a handle has a container, and every container runs what the
answer about its image leads to. -/
structure Known (notebook : String) (payload : SessionData) (possible : Inspect → Prop) (session : Session) : Prop where
  held : session.thread.pc.owed ≠ none → session.container ≠ none
  command : ∀ container, session.container = some container →
    possible container.inspect ∧ container.command = containerCommand notebook payload container.inspect

theorem known_step {possible : Inspect → Prop} (known : Known notebook payload possible session)
    (allowed : ∀ launch, input = .launch launch → possible launch.inspect)
    (stepped : step notebook payload session input = some (session', effect)) :
    Known notebook payload possible session' := by
  obtain ⟨answer, moved, ⟨launch, rfl, started⟩ | ⟨still, same⟩⟩ := step_cases stepped
  · refine ⟨fun _ => by rw [started]; simp, fun container found => ?_⟩
    rw [started] at found
    cases found
    exact ⟨allowed launch rfl, rfl⟩
  · refine ⟨fun owes => ?_, fun container found => known.command container (same ▸ found)⟩
    rw [same]
    exact known.held fun nothing => owes (step_owes_nothing nothing still moved)

/-- A ready report is sent while the thread holds the handle. -/
theorem ready_owed {thread thread' : Thread} {answer : Answer} {id token : String} {port : Nat} {ok : Bool}
    (moved : WorkbenchSession.step thread answer = some (thread', .sent (.ready id port token) ok)) :
    thread.pc.owed ≠ none := by
  rcases WorkbenchSession.step_cases moved with ⟨_, _, _, other, _⟩ | ⟨_, _, _, _, other, _⟩ | ⟨pc, moved, _⟩
  · cases other
  · cases other
  · obtain ⟨handle, at_, _, _⟩ := (pcStep_move moved).ready
    rw [at_]
    simp [Pc.owed]

/-- Whenever a ready report is sent, the main process of the container is its image's own. -/
def ReadyRunsImage (runtime : Runtime) (own : List String) (notebook : String) (payload : SessionData) (sessionId : String)
    (inputs : List Input) : Prop :=
  ∀ before input after, inputs = before ++ input :: after → ∀ session shown,
    Runs.run (step notebook payload) (begin sessionId) before = some (session, shown) →
      ∀ session' id port token ok, step notebook payload session input = some (session', .sent (.ready id port token) ok) →
        ∃ container, session.container = some container ∧ runtime.mainProcess container.command = own

theorem ready_runs_image {possible : Inspect → Prop} {sessionId : String} {inputs : List Input}
    (keeps : ∀ inspect, possible inspect → runtime.mainProcess (containerCommand notebook payload inspect) = own)
    (allowed : ∀ launch, .launch launch ∈ inputs → possible launch.inspect) :
    ReadyRunsImage runtime own notebook payload sessionId inputs := by
  rintro before input after rfl session shown ran session' id port token ok stepped
  have inv : Known notebook payload possible session := by
    refine Runs.run_invariant (I := fun session inputs _ => (∀ launch, .launch launch ∈ inputs → possible launch.inspect) →
      Known notebook payload possible session) ?_ ?_ ran fun launch member => allowed launch (List.mem_append_left _ member)
    · exact fun _ => ⟨fun owes => absurd rfl owes, fun container found => by cases found⟩
    · intro session inputs effects input session' effect known stepped allowed
      refine known_step (known fun launch member => allowed launch (List.mem_append_left _ member)) ?_ stepped
      rintro launch rfl
      exact allowed launch (by simp)
  obtain ⟨answer, moved, _⟩ := step_cases stepped
  obtain ⟨container, found⟩ := Option.ne_none_iff_exists'.mp (inv.held (ready_owed moved))
  obtain ⟨seen, command⟩ := inv.command container found
  exact ⟨container, found, command ▸ keeps container.inspect seen⟩

/-- A container is started, a connection to its port is accepted, and the session is
registered. -/
def acceptedStart (inspect : Inspect) : List Input :=
  [.launch ⟨40001, "tok", inspect, .exited 0 "c1" "", true⟩, .probe (.accepted (.ok [])), .other .returned]

/-- After such a start the session is about to be reported ready, unless it is probed for
a banner. -/
theorem acceptedStart_ran (other : payload.sessionType ≠ "ssh") :
    ∃ session shown, Runs.run (step notebook payload) (begin "s1") (acceptedStart inspect) = some (session, shown) ∧
      session.thread.pc = .ready ⟨40001, "tok", some "c1", none, "docker"⟩ ∧
      session.container = some ⟨inspect, containerCommand notebook payload inspect⟩ := by
  have healthy : probeSessionService payload.sessionType (.accepted (.ok [])) = none := if_pos other
  have first : step notebook payload (begin "s1") (.launch ⟨40001, "tok", inspect, .exited 0 "c1" "", true⟩) =
      some (⟨{ spawn "s1" with pc := .heal { pc := .probe ⟨40001, "tok", some "c1", none, "docker"⟩ 0 } },
        some ⟨inspect, containerCommand notebook payload inspect⟩⟩, .started ⟨40001, "tok", some "c1", none, "docker"⟩) :=
    rfl
  have second : step notebook payload
      ⟨{ spawn "s1" with pc := .heal { pc := .probe ⟨40001, "tok", some "c1", none, "docker"⟩ 0 } },
        some ⟨inspect, containerCommand notebook payload inspect⟩⟩ (.probe (.accepted (.ok []))) =
      some (⟨{ spawn "s1" with pc := .register ⟨40001, "tok", some "c1", none, "docker"⟩ },
        some ⟨inspect, containerCommand notebook payload inspect⟩⟩,
        .probed ⟨40001, "tok", some "c1", none, "docker"⟩ none) := by
    rw [step, healthy]
    rfl
  exact ⟨_, _, Runs.run_cons_iff.mpr ⟨_, _, _, first, Runs.run_cons_iff.mpr ⟨_, _, _, second, rfl, rfl⟩, rfl⟩, rfl, rfl⟩

/-- The ready report that follows finds the container as it was started. -/
theorem acceptedStart_runs (other : payload.sessionType ≠ "ssh")
    (runs : ReadyRunsImage runtime own notebook payload "s1" (acceptedStart inspect ++ [.other (.http true)])) :
    runtime.mainProcess (containerCommand notebook payload inspect) = own := by
  obtain ⟨⟨⟨sessionId, executor, monitored, pc⟩, container⟩, shown, ran, at_, started⟩ :=
    @acceptedStart_ran notebook payload inspect other
  cases at_
  cases started
  obtain ⟨container, found, own_⟩ := runs _ _ _ rfl _ _ ran _ _ _ _ true rfl
  cases found
  exact own_

/-- On a port that accepts every connection, a Docker session without a command that is
reported ready runs its image's own command exactly if, for every answer of `docker image
inspect` that can occur, the payload keeps the image. An answer that names something names
what the image runs. -/
theorem ready_runs_image_iff (runtime : Runtime) (own : List String) (notebook : String) (payload : SessionData)
    (possible : Inspect → Prop) (empty : payload.command = "")
    (documented : runtime.Documented payload.dockerImage own (script (buildStartupParts notebook payload)))
    (truthful : ∀ inspect, possible inspect → imageEntrypoint inspect ≠ [] → imageEntrypoint inspect = own) :
    (∀ sessionId inputs, (∀ input ∈ inputs, Input.Allowed possible input) →
        ReadyRunsImage runtime own notebook payload sessionId inputs) ↔
      ∀ inspect, possible inspect → KeepsImage runtime own notebook payload inspect := by
  constructor
  · intro runs inspect seen
    by_cases ssh : payload.sessionType = "ssh"
    · exact .inl ssh
    · apply (mainProcess_eq_own_iff empty documented (truthful inspect seen)).mp
      apply acceptedStart_runs ssh
      apply runs "s1"
      simp [acceptedStart, Input.Allowed, seen]
  · intro keeps sessionId inputs allowed
    refine ready_runs_image (fun inspect seen => ?_) fun launch member => allowed _ member
    exact (mainProcess_eq_own_iff empty documented (truthful inspect seen)).mpr (keeps inspect seen)

/-- A Jupyter session with a workspace. -/
def jupyterSession : SessionData where
  dockerImage := "jupyter/minimal-notebook"
  command := ""
  sessionType := "jupyter"
  workspace := some {}

/-- The image is local when it is inspected. -/
def notebookImage : Inspect := .config (some ["tini", "-g", "--"]) (some ["start-notebook.py"])

/-- What the shell of the container does with its last command. -/
def notebookShell (command : List Char) : List String :=
  if "exec ".toList.isPrefixOf command then
    match ShellWords.words (command.drop 5) with
    | some words => words.map String.ofList
    | none => ["/bin/sh", "-c", String.ofList command]
  else ["/bin/sh", "-c", String.ofList command]

/-- The entrypoint of the image runs the shell that it is given, and the startup script
comes to its end. -/
def notebookRuntime (startup : String) : Runtime where
  mainProcess
    | [_, "/bin/sh", "-c", text] => notebookShell (text.toList.drop (startup.toList.length + 3))
    | _ => imageEntrypoint notebookImage
  handsOver := True
  staysWith _ := none
  lastCommand command := notebookShell command.toList

theorem notebookRuntime_documented (startup : String) :
    (notebookRuntime startup).Documented "jupyter/minimal-notebook" (imageEntrypoint notebookImage) startup := by
  constructor
  · rfl
  · intro _ command
    have after : (startup ++ " ; " ++ command).toList.drop (startup.toList.length + 3) = command.toList := by
      rw [String.toList_append, String.toList_append]
      exact List.drop_left' (by rw [List.length_append]; rfl)
    exact congrArg notebookShell after
  · exact fun hands => absurd trivial hands
  · intro _ text words
    have begun : ("exec " ++ String.ofList text).toList = "exec ".toList ++ text := by
      rw [String.toList_append, @String.toList_ofList text]
    have rest : ("exec ".toList ++ text).drop 5 = text := rfl
    change notebookShell ("exec " ++ String.ofList text).toList = _
    rw [begun, notebookShell, rest, words, if_pos (List.isPrefixOf_iff_prefix.mpr (List.prefix_append _ _))]
    rfl
  · change notebookShell "tail -f /dev/null".toList ≠ _
    decide

/-- The startup script of the session. -/
def jupyterStartup : String := script (buildStartupParts "" jupyterSession)

theorem ready_runs_image_jupyter :
    ReadyRunsImage (notebookRuntime jupyterStartup) (imageEntrypoint notebookImage) "" jupyterSession "s1"
      (acceptedStart notebookImage ++ [.other (.http true)]) := by
  refine (ready_runs_image_iff _ _ "" jupyterSession (· = notebookImage) rfl
    (notebookRuntime_documented jupyterStartup) ?_).mpr ?_ "s1" _ ?_
  · rintro inspect rfl _
    rfl
  · rintro inspect rfl
    exact .inr (.inr ⟨trivial, .inl ⟨rfl, by decide⟩⟩)
  · simp [acceptedStart, Input.Allowed]

/-- The image is not local yet when it is inspected. -/
theorem idle_jupyter_ready :
    ¬ ReadyRunsImage (notebookRuntime jupyterStartup) (imageEntrypoint notebookImage) "" jupyterSession "s1"
      (acceptedStart .failed ++ [.other (.http true)]) := by
  intro runs
  have own : (notebookRuntime jupyterStartup).mainProcess (containerCommand "" jupyterSession .failed) =
      imageEntrypoint notebookImage := acceptedStart_runs (by decide) runs
  have documented := notebookRuntime_documented jupyterStartup
  have keeps := (mainProcess_eq_own_iff rfl documented fun some_ => absurd rfl some_).mp own
  rcases keeps with ssh | ⟨none, _⟩ | ⟨_, ⟨_, known⟩ | stays⟩
  · exact absurd ssh (by decide)
  · cases none
  · exact known rfl
  · cases stays

end ComputeCloudNode.DockerWorkbench
