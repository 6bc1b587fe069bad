import ComputeCloudNode.DockerExecutor
import ComputeCloudNode.Lib.AndOrLists

/-! The startup script of an SSH session. Its parts are and-or lists of their own, so the
` && ` between them continues the list: the `|| true` at the end of a part rescues all that
stands before it, and the one at the end of the script makes it always exit with 0. -/
namespace ComputeCloudNode.DockerWorkbench
open Workbench AndOrLists

/-- The commands of the startup script of an SSH session; the files of the workspace are
numbered. -/
inductive Command
  | installSdk
  | makeWorkspace
  | makeDirectory (file : Nat) (relPath : String)
  | download (file : Nat) (token relPath url : String)
  | makeSshDirectory
  | appendKeys (blob : String)
  | protectDirectory
  | protectKeys
  | true_
  deriving DecidableEq

/-- The text of a command, with its redirections. -/
def Command.text : Command → String
  | .installSdk => "pip install computecloud-sdk 2>/dev/null"
  | .makeWorkspace => "mkdir -p /workspace"
  | .makeDirectory _ relPath => s!"mkdir -p /workspace/$(dirname \"{relPath}\")"
  | .download _ token relPath url => s!"curl -sf -H \"Authorization: Bearer {token}\" -o \"/workspace/{relPath}\" \"{url}\""
  | .makeSshDirectory => "mkdir -p /config/.ssh"
  | .appendKeys blob => s!"printf '%s\\n' {blob} >> /config/.ssh/authorized_keys"
  | .protectDirectory => "chmod 700 /config/.ssh"
  | .protectKeys => "chmod 600 /config/.ssh/authorized_keys 2>/dev/null"
  | .true_ => "true"

/-! ### Commands of the parts -/

def sdkList : AndOrList Command := [(.and, .installSdk), (.or, .true_)]

def sshKeysList (sshKeys : List String) : AndOrList Command :=
  [(.and, .makeSshDirectory), (.and, .appendKeys (keysBlob sshKeys)), (.and, .protectDirectory), (.and, .protectKeys),
    (.or, .true_)]

def fileLists (baseUrl dlPrefix token : String) (file : FileInfo) (number : Nat) : List (AndOrList Command) :=
  if file.relativePath = "" then []
  else
    [[(.and, .makeDirectory number file.relativePath)],
      [(.and, .download number token file.relativePath s!"{baseUrl}{dlPrefix}/{file.relativePath}"), (.or, .true_)]]

def workspaceLists (payload : SessionData) (block : Workspace) : List (AndOrList Command) :=
  [(.and, .makeWorkspace)] :: block.files.zipIdx.flatMap fun (file, number) =>
    fileLists (rstripSlashes payload.httpBaseUrl) block.downloadPathPrefix (poolToken payload.poolEnv) file number

/-- The lists that stand before the keys. -/
def preparationLists (payload : SessionData) : List (AndOrList Command) :=
  match payload.workspace with
  | none => if payload.poolEnv = [] then [] else [sdkList]
  | some block => sdkList :: workspaceLists payload block

/-- The parts of an SSH session that has keys. -/
def startupLists (payload : SessionData) : List (AndOrList Command) :=
  preparationLists payload ++ [sshKeysList payload.sshPublicKeys]

/-- The commands of the script. -/
def startupCommands (payload : SessionData) : AndOrList Command := (startupLists payload).flatten

/-! ### Their texts -/

theorem render_sshKeysList (sshKeys : List String) : render Command.text (sshKeysList sshKeys) = sshKeysPart sshKeys := by
  have start : "mkdir -p /config/.ssh && printf '%s\\n' " = "mkdir -p /config/.ssh" ++ (" && " ++ "printf '%s\\n' ") := by
    decide +kernel
  have finish : " && chmod 700 /config/.ssh && chmod 600 /config/.ssh/authorized_keys 2>/dev/null || true" =
      " && " ++ ("chmod 700 /config/.ssh" ++ (" && " ++ ("chmod 600 /config/.ssh/authorized_keys 2>/dev/null" ++
        (" || " ++ "true")))) := by
    decide +kernel
  change "mkdir -p /config/.ssh" ++ " && " ++ (("printf '%s\\n' " ++ keysBlob sshKeys ++ " >> /config/.ssh/authorized_keys") ++
      " && " ++ ("chmod 700 /config/.ssh" ++ " && " ++ ("chmod 600 /config/.ssh/authorized_keys 2>/dev/null" ++
        " || " ++ "true"))) =
    "mkdir -p /config/.ssh && printf '%s\\n' " ++ keysBlob sshKeys ++ " >> /config/.ssh/authorized_keys" ++
      " && chmod 700 /config/.ssh && chmod 600 /config/.ssh/authorized_keys 2>/dev/null || true"
  rw [start, finish]
  simp only [String.append_assoc]

/-- The download with what rescues it. -/
theorem download_text (number : Nat) (token relPath url : String) :
    render Command.text [(.and, .download number token relPath url), (.or, .true_)] =
      s!"curl -sf -H \"Authorization: Bearer {token}\" -o \"/workspace/{relPath}\" \"{url}\" || true" := by
  have finish : "\" || true" = "\"" ++ (" || " ++ "true") := by decide +kernel
  change ("curl -sf -H \"Authorization: Bearer " ++ token ++ "\" -o \"/workspace/" ++ relPath ++ "\" \"" ++ url ++ "\"") ++
      " || " ++ "true" =
    "curl -sf -H \"Authorization: Bearer " ++ token ++ "\" -o \"/workspace/" ++ relPath ++ "\" \"" ++ url ++ "\" || true"
  rw [finish]
  simp only [String.append_assoc]

theorem render_fileLists (baseUrl dlPrefix token : String) (file : FileInfo) (number : Nat) :
    (fileLists baseUrl dlPrefix token file number).map (render Command.text) = fileParts baseUrl dlPrefix token file := by
  unfold fileLists fileParts
  by_cases unnamed : file.relativePath = ""
  · simp only [if_pos unnamed, List.map_nil]
  · simp only [if_neg unnamed, List.map_cons, List.map_nil, download_text]
    rfl

theorem render_workspaceLists (payload : SessionData) (block : Workspace) :
    (workspaceLists payload block).map (render Command.text) = workspaceParts payload block := by
  have files : ∀ (files : List FileInfo) (from_ : Nat),
      ((files.zipIdx from_).flatMap fun (file, number) =>
          fileLists (rstripSlashes payload.httpBaseUrl) block.downloadPathPrefix (poolToken payload.poolEnv) file
            number).map (render Command.text) =
        files.flatMap (fileParts (rstripSlashes payload.httpBaseUrl) block.downloadPathPrefix (poolToken payload.poolEnv)) := by
    intro files
    induction files with
    | nil => exact fun _ => rfl
    | cons file files ih =>
      intro from_
      rw [List.zipIdx_cons, List.flatMap_cons, List.map_append, render_fileLists, ih, List.flatMap_cons]
  unfold workspaceLists workspaceParts
  rw [List.map_cons, files]
  rfl

/-- The parts of an SSH session that has keys are these lists. -/
theorem render_startupLists {notebook : String} {payload : SessionData} (ssh : payload.sessionType = "ssh")
    (keys : payload.sshPublicKeys ≠ []) :
    (startupLists payload).map (render Command.text) = buildStartupParts notebook payload := by
  have sdk : render Command.text sdkList = "pip install computecloud-sdk 2>/dev/null || true" := by decide +kernel
  have notJupyter : payload.sessionType ≠ "jupyter" := by
    rw [ssh]
    decide
  unfold startupLists preparationLists buildStartupParts
  simp only [if_pos (And.intro ssh keys), if_neg notJupyter]
  cases payload.workspace with
  | none =>
    by_cases alone : payload.poolEnv = []
    · simp only [if_pos alone, List.nil_append, List.map_cons, List.map_nil, render_sshKeysList]
    · simp only [if_neg alone, List.cons_append, List.nil_append, List.map_cons, List.map_nil, render_sshKeysList, sdk]
  | some block =>
    simp only [List.cons_append, List.map_cons, List.map_append, List.map_nil, render_workspaceLists, render_sshKeysList,
      sdk, List.append_nil]

/-- What may stand before the keys. -/
theorem mem_preparationLists {payload : SessionData} {list : AndOrList Command} (member : list ∈ preparationLists payload) :
    list = sdkList ∨ list = [(.and, .makeWorkspace)] ∨
      (∃ number relPath, list = [(.and, .makeDirectory number relPath)]) ∨
      ∃ number token relPath url, list = [(.and, .download number token relPath url), (.or, .true_)] := by
  unfold preparationLists at member
  split at member
  · split at member
    · cases member
    · exact .inl (List.mem_singleton.mp member)
  · rcases List.mem_cons.mp member with sdk | workspace
    · exact .inl sdk
    · rcases List.mem_cons.mp workspace with made | file
      · exact .inr (.inl made)
      · obtain ⟨⟨file, number⟩, _, member⟩ := List.mem_flatMap.mp file
        simp only [fileLists] at member
        split at member
        · cases member
        · rcases List.mem_cons.mp member with made | fetched
          · exact .inr (.inr (.inl ⟨_, _, made⟩))
          · exact .inr (.inr (.inr ⟨_, _, _, _, List.mem_singleton.mp fetched⟩))

theorem startupLists_start (payload : SessionData) : ∀ list ∈ startupLists payload, Starts list := by
  intro list member
  rcases List.mem_append.mp member with before | keys
  · rcases mem_preparationLists before with rfl | rfl | ⟨_, _, rfl⟩ | ⟨_, _, _, _, rfl⟩ <;> exact ⟨_, _, rfl⟩
  · exact ⟨_, _, List.mem_singleton.mp keys⟩

/-- The script that is run is the text of these commands. -/
theorem render_startupCommands {notebook : String} {payload : SessionData} (ssh : payload.sessionType = "ssh")
    (keys : payload.sshPublicKeys ≠ []) :
    render Command.text (startupCommands payload) = script (buildStartupParts notebook payload) := by
  unfold startupCommands script
  rw [render_flatten (startupLists_start payload), render_startupLists ssh keys]

/-! ### How the script ends -/

variable {payload : SessionData} {answers : Command → Bool}

/-- How a command ends, when `answers` says so of every command but `true`. -/
def outcome (answers : Command → Bool) : Command → Bool
  | .true_ => true
  | command => answers command

/-- The script exits with 0. -/
def exitsZero (payload : SessionData) (answers : Command → Bool) : Bool :=
  status (outcome answers) true (startupCommands payload)

/-- The append to `authorized_keys` is executed and succeeds. -/
def Injected (payload : SessionData) (answers : Command → Bool) : Prop :=
  .appendKeys (keysBlob payload.sshPublicKeys) ∈ executed (outcome answers) true (startupCommands payload) ∧
    answers (.appendKeys (keysBlob payload.sshPublicKeys))

/-- Nothing of the workspace is fetched, so no `|| true` stands between `mkdir` and the keys. -/
def FetchesNothing (payload : SessionData) : Prop :=
  ∃ block, payload.workspace = some block ∧ ∀ file ∈ block.files, file.relativePath = ""

theorem rescued (zero : Bool) : status (outcome answers) zero [(.or, .true_)] = true := status_rescued rfl

theorem status_fileLists (baseUrl dlPrefix token : String) (files : List FileInfo) (first : Nat) (zero : Bool) :
    status (outcome answers) zero
      ((files.zipIdx first).flatMap fun (file, number) => fileLists baseUrl dlPrefix token file number).flatten =
      (zero || !files.all fun file => file.relativePath = "") := by
  induction files generalizing first zero with
  | nil => simp [status]
  | cons file files ih =>
    rw [List.zipIdx_cons, List.flatMap_cons, List.flatten_append, status_append, ih, List.all_cons]
    dsimp only
    by_cases unnamed : file.relativePath = ""
    · have none_ : fileLists baseUrl dlPrefix token file first = [] := if_pos unnamed
      rw [none_, decide_eq_true unnamed, Bool.true_and]
      rfl
    · have ends : status (outcome answers) zero (fileLists baseUrl dlPrefix token file first).flatten = true := by
        have lists : fileLists baseUrl dlPrefix token file first = _ := if_neg unnamed
        rw [lists]
        exact rescued _
      rw [ends, decide_eq_false unnamed, Bool.false_and, Bool.not_false, Bool.or_true, Bool.true_or]

/-- What stands before the keys ends well, unless the directory of the workspace is not made
and nothing rescues that. -/
theorem status_preparation : status (outcome answers) true (preparationLists payload).flatten = true ↔
    (FetchesNothing payload → answers .makeWorkspace) := by
  have sdk : status (outcome answers) true sdkList = true := rescued _
  unfold preparationLists FetchesNothing
  cases workspace : payload.workspace with
  | none =>
    by_cases alone : payload.poolEnv = []
    · simp [alone, status]
    · simp [alone, sdk]
  | some block =>
    have made : status (outcome answers) true [(.and, .makeWorkspace)] = answers .makeWorkspace := rfl
    simp only [workspaceLists, List.flatten_cons, status_append, sdk, made, status_fileLists, Option.some.injEq,
      exists_eq_left', Bool.or_eq_true, Bool.not_eq_true', List.all_eq_false, decide_eq_true_eq]
    constructor
    · rintro (made | ⟨file, member, named⟩) nothing
      · exact made
      · exact absurd (nothing file member) named
    · intro needed
      by_cases nothing : ∀ file ∈ block.files, file.relativePath = ""
      · exact .inl (needed nothing)
      · simpa using Or.inr (not_forall.mp nothing)

/-- The commands that inject the keys do that. -/
def Injects (payload : SessionData) (answers : Command → Bool) : Prop :=
  (FetchesNothing payload → answers .makeWorkspace) ∧ answers .makeSshDirectory ∧
    answers (.appendKeys (keysBlob payload.sshPublicKeys))

theorem appendKeys_not_before (blob : String) : ∀ operator, (operator, .appendKeys blob) ∉ (preparationLists payload).flatten := by
  intro operator member
  obtain ⟨list, member, inside⟩ := List.mem_flatten.mp member
  rcases mem_preparationLists member with rfl | rfl | ⟨_, _, rfl⟩ | ⟨_, _, _, _, rfl⟩
  · simp [sdkList] at inside
  · simp at inside
  · simp at inside
  · simp at inside

theorem startupCommands_split (payload : SessionData) :
    startupCommands payload = (preparationLists payload).flatten ++ sshKeysList payload.sshPublicKeys := by
  unfold startupCommands startupLists
  rw [List.flatten_append, List.flatten_singleton]

/-- The append is executed when all before it went well and the directory is made. -/
theorem appendKeys_executed_iff (sshKeys : List String) (zero : Bool) :
    .appendKeys (keysBlob sshKeys) ∈ executed (outcome answers) zero (sshKeysList sshKeys) ↔
      zero = true ∧ answers .makeSshDirectory := by
  cases zero with
  | false => simp [sshKeysList, executed, Operator.runs]
  | true =>
    by_cases made : answers .makeSshDirectory
    · simp [sshKeysList, executed, Operator.runs, outcome, made]
    · simp [sshKeysList, executed, Operator.runs, outcome, made]

theorem injected_iff : Injected payload answers ↔ Injects payload answers := by
  unfold Injected Injects
  rw [startupCommands_split, executed_append, List.mem_append, ← status_preparation, appendKeys_executed_iff]
  constructor
  · rintro ⟨early | ⟨ready, made⟩, appended⟩
    · obtain ⟨operator, member⟩ := executed_mem early
      exact absurd member (appendKeys_not_before _ operator)
    · exact ⟨ready, made, appended⟩
  · rintro ⟨ready, made, appended⟩
    exact ⟨.inr ⟨ready, made⟩, appended⟩

/-- Whatever fails, the script exits with 0. -/
theorem exitsZero_always : exitsZero payload answers = true := by
  unfold exitsZero
  rw [startupCommands_split, status_append]
  exact rescued _

/-! ### Attempts -/

/-- How one `docker exec` goes. -/
inductive Exec
  /-- It raises, or it runs into the timeout. -/
  | raised (text : String)
  /-- It does not run the script, and says so by its exit status. -/
  | refused (returncode : Int) (nonzero : returncode ≠ 0)
  /-- It exits with the status of the script, whose commands end as `answers` has it. -/
  | ran (answers : Command → Bool)

/-- `result.returncode == 0`. -/
def Exec.zero (payload : SessionData) : Exec → Bool
  | .raised _ | .refused _ _ => false
  | .ran answers => exitsZero payload answers

/-- The keys are injected. -/
def Exec.Injected (payload : SessionData) : Exec → Prop
  | .raised _ | .refused _ _ => False
  | .ran answers => DockerWorkbench.Injected payload answers

/-- `for attempt in range(3)`: the attempts that are made. -/
def attempts (payload : SessionData) (exec : Nat → Exec) : Nat → Nat → List Exec
  | 0, _ => []
  | remaining + 1, attempt =>
    exec attempt ::
      if (exec attempt).zero payload then [] else attempts payload exec remaining (attempt + 1)

/-- `_run_startup_parts_docker`. -/
def runStartupPartsDocker (payload : SessionData) (exec : Nat → Exec) : List Exec := attempts payload exec 3 0

/-- After an attempt that does not inject the keys comes another one, if any is left. -/
def Retries (payload : SessionData) (exec : Nat → Exec) : Prop :=
  ∀ attempt, attempt + 1 < 3 → attempt < (runStartupPartsDocker payload exec).length →
    ¬(exec attempt).Injected payload → attempt + 1 < (runStartupPartsDocker payload exec).length

/-- The script is run first by this attempt. -/
def RunsFirst (exec : Nat → Exec) (attempt : Nat) (answers : Command → Bool) : Prop :=
  exec attempt = .ran answers ∧ ∀ earlier < attempt, ∀ other, exec earlier ≠ .ran other

theorem Exec.zero_iff (exec : Exec) : exec.zero payload = true ↔ ∃ answers, exec = .ran answers := by
  cases exec with
  | raised text => simp [Exec.zero]
  | refused returncode nonzero => simp [Exec.zero]
  | ran answers => simp [Exec.zero, exitsZero_always]

/-- An attempt is made when none before it has run the script. -/
theorem attempt_made_iff (exec : Nat → Exec) (remaining first later : Nat) :
    later < (attempts payload exec remaining first).length ↔
      later < remaining ∧ ∀ earlier < later, ∀ answers, exec (first + earlier) ≠ .ran answers := by
  induction remaining generalizing first later with
  | zero => simp [attempts]
  | succ remaining ih =>
    rw [attempts, List.length_cons]
    cases later with
    | zero => simp
    | succ later =>
      have shift : (∀ earlier < later + 1, ∀ answers, exec (first + earlier) ≠ .ran answers) ↔
          (∀ answers, exec first ≠ .ran answers) ∧ ∀ earlier < later, ∀ answers, exec (first + 1 + earlier) ≠ .ran answers := by
        constructor
        · intro none_
          refine ⟨none_ 0 (Nat.succ_pos _), fun earlier before => ?_⟩
          rw [Nat.add_right_comm]
          exact none_ (earlier + 1) (Nat.succ_lt_succ before)
        · rintro ⟨here, none_⟩ (_ | earlier) before
          · exact here
          · rw [← Nat.add_assoc, Nat.add_right_comm]
            exact none_ earlier (Nat.lt_of_succ_lt_succ before)
      rw [shift, Nat.succ_lt_succ_iff, Nat.succ_lt_succ_iff]
      by_cases runs : (exec first).zero payload
      · obtain ⟨answers, ran⟩ := (Exec.zero_iff _).mp runs
        rw [if_pos runs]
        constructor
        · intro impossible
          cases impossible
        · rintro ⟨_, here, _⟩
          exact absurd ran (here answers)
      · have here : ∀ answers, exec first ≠ .ran answers :=
          fun answers ran => runs ((Exec.zero_iff _).mpr ⟨answers, ran⟩)
        rw [if_neg runs, ih]
        exact ⟨fun ⟨bound, none_⟩ => ⟨bound, here, none_⟩, fun ⟨bound, _, none_⟩ => ⟨bound, none_⟩⟩

theorem run_made_iff (exec : Nat → Exec) (attempt : Nat) : attempt < (runStartupPartsDocker payload exec).length ↔
    attempt < 3 ∧ ∀ earlier < attempt, ∀ answers, exec earlier ≠ .ran answers := by
  have made := @attempt_made_iff payload exec 3 0 attempt
  simp only [Nat.zero_add] at made
  exact made

theorem retries_iff (exec : Nat → Exec) : Retries payload exec ↔
    ∀ attempt answers, attempt + 1 < 3 → RunsFirst exec attempt answers → Injects payload answers := by
  constructor
  · rintro retries attempt answers more ⟨ran, first⟩
    rw [← injected_iff]
    by_contra failed
    have uninjected : ¬(exec attempt).Injected payload := by
      rw [ran]
      exact failed
    have made : attempt < (runStartupPartsDocker payload exec).length :=
      (run_made_iff exec attempt).mpr ⟨Nat.lt_of_succ_lt more, first⟩
    obtain ⟨_, earlier⟩ := (run_made_iff exec (attempt + 1)).mp (retries attempt more made uninjected)
    exact earlier attempt (Nat.lt_succ_self _) answers ran
  · intro injects attempt more made failed
    obtain ⟨_, first⟩ := (run_made_iff exec attempt).mp made
    refine (run_made_iff exec (attempt + 1)).mpr ⟨more, fun earlier before answers ran => ?_⟩
    rcases Nat.lt_succ_iff_lt_or_eq.mp before with sooner | rfl
    · exact first earlier sooner answers ran
    · apply failed
      rw [ran]
      exact injected_iff.mpr (injects earlier answers more ⟨ran, first⟩)

/-- The script of an SSH session with a key exits with 0 only after the keys were appended
exactly when the commands that append them do not fail, and only then does the loop try
again whenever the keys were not injected. -/
theorem startup_failures_detected_iff (notebook : String) {payload : SessionData} (ssh : payload.sessionType = "ssh")
    (keys : ∃ key ∈ payload.sshPublicKeys, strip key ≠ "") :
    render Command.text (startupCommands payload) = script (buildStartupParts notebook payload) ∧
      (∀ answers, (exitsZero payload answers = true → Injected payload answers) ↔ Injects payload answers) ∧
      ∀ exec, Retries payload exec ↔
        ∀ attempt answers, attempt + 1 < 3 → RunsFirst exec attempt answers → Injects payload answers := by
  obtain ⟨key, member, _⟩ := keys
  refine ⟨render_startupCommands ssh (List.ne_nil_of_mem member), fun answers => ?_, fun exec => retries_iff exec⟩
  rw [injected_iff]
  exact ⟨fun detected => detected exitsZero_always, fun injects _ => injects⟩

def sshSession : SessionData where
  dockerImage := "linuxserver/openssh-server:latest"
  command := ""
  sessionType := "ssh"
  sshPublicKeys := ["ssh-ed25519 AAAA test"]

theorem startup_failures_detected_ssh :
    render Command.text (startupCommands sshSession) = script (buildStartupParts "" sshSession) ∧
      (∀ answers, (exitsZero sshSession answers = true → Injected sshSession answers) ↔ Injects sshSession answers) ∧
      ∀ exec, Retries sshSession exec ↔
        ∀ attempt answers, attempt + 1 < 3 → RunsFirst exec attempt answers → Injects sshSession answers :=
  startup_failures_detected_iff "" rfl ⟨"ssh-ed25519 AAAA test", List.mem_cons_self, by decide +kernel⟩

/-- The append to `authorized_keys` fails every time. -/
def appendFails (command : Command) : Bool := command ≠ .appendKeys (keysBlob sshSession.sshPublicKeys)

theorem failed_append_exits_zero :
    exitsZero sshSession appendFails = true ∧ ¬Injected sshSession appendFails ∧
      (runStartupPartsDocker sshSession fun _ => .ran appendFails).length = 1 := by
  refine ⟨rfl, fun injected => ?_, rfl⟩
  exact absurd injected.2 (by simp [appendFails])

end ComputeCloudNode.DockerWorkbench
