import ComputeCloudNode.Lib.ShellWords
import ComputeCloudNode.SessionData
import ComputeCloudNode.WorkbenchSession

/-! How the Docker workbench executor starts a container: the startup script, the
image's entrypoint, what `docker run` is told to run, and the probe of the session's
service. The options of `docker run` that come before the image are left out. The
notebook that a Jupyter session finds is given as the base64 text that goes into the
script. -/
namespace ComputeCloudNode.DockerWorkbench
open Workbench WorkbenchSession

/-- The quoted keys of the startup script. -/
def keysBlob (sshKeys : List String) : String :=
  " ".intercalate ((sshKeys.filter fun k => strip k ≠ "").map fun k => "'" ++ strip k ++ "'")

/-- The part that injects the keys; both branches of `_build_startup_parts` have it. -/
def sshKeysPart (sshKeys : List String) : String :=
  s!"mkdir -p /config/.ssh && printf '%s\\n' {keysBlob sshKeys} >> /config/.ssh/authorized_keys" ++
    " && chmod 700 /config/.ssh && chmod 600 /config/.ssh/authorized_keys 2>/dev/null || true"

/-- The two parts that fetch one file of the workspace. -/
def fileParts (baseUrl dlPrefix token : String) (file : FileInfo) : List String :=
  if file.relativePath = "" then []
  else
    let relPath := file.relativePath
    let url := s!"{baseUrl}{dlPrefix}/{relPath}"
    [s!"mkdir -p /workspace/$(dirname \"{relPath}\")",
      s!"curl -sf -H \"Authorization: Bearer {token}\" -o \"/workspace/{relPath}\" \"{url}\" || true"]

/-- The parts for the workspace block, up to the notebook. -/
def workspaceParts (payload : SessionData) (block : Workspace) : List String :=
  "mkdir -p /workspace" :: block.files.flatMap
    (fileParts (rstripSlashes payload.httpBaseUrl) block.downloadPathPrefix (poolToken payload.poolEnv))

def welcomePart (notebook : String) : String :=
  s!"test -f /workspace/welcome.ipynb || (mkdir -p /workspace && echo '{notebook}'" ++
    " | base64 -d > /workspace/welcome.ipynb) 2>/dev/null || true"

/-- `_build_startup_parts`. -/
def buildStartupParts (notebook : String) (payload : SessionData) : List String :=
  let keys := if payload.sessionType = "ssh" ∧ payload.sshPublicKeys ≠ [] then [sshKeysPart payload.sshPublicKeys] else []
  match payload.workspace with
  | none => if payload.poolEnv = [] then keys else "pip install computecloud-sdk 2>/dev/null || true" :: keys
  | some block =>
    "pip install computecloud-sdk 2>/dev/null || true" :: workspaceParts payload block ++
      (if payload.sessionType = "jupyter" then [welcomePart notebook] else []) ++ keys

/-- What `docker image inspect` brings. `failed` is a nonzero exit, an exception or an
answer that is no JSON object. -/
inductive Inspect
  | failed
  | config (entrypoint cmd : Option (List String))
  deriving DecidableEq

/-- `_image_entrypoint`. -/
def imageEntrypoint : Inspect → List String
  | .failed => []
  | .config entrypoint cmd => entrypoint.getD [] ++ cmd.getD []

/-- The startup script. -/
def script (startupParts : List String) : String := " && ".intercalate startupParts

/-- `_build_final_command`. -/
def buildFinalCommand (dockerImage command : String) (startupParts : List String) : List String :=
  if startupParts ≠ [] then
    if command ≠ "" then [dockerImage, "/bin/sh", "-c", s!"{script startupParts} ; {command}"]
    else [dockerImage, "/bin/sh", "-c", s!"{script startupParts} ; tail -f /dev/null"]
  else if command ≠ "" then [dockerImage, "/bin/sh", "-c", command]
  else [dockerImage]

/-- The image and the command at the end of `docker_cmd`. -/
def containerCommand (notebook : String) (payload : SessionData) (inspect : Inspect) : List String :=
  let startupParts := buildStartupParts notebook payload
  -- The parts of such a session run after the start, by `docker exec`.
  if payload.sessionType = "ssh" ∧ payload.command = "" then [payload.dockerImage]
  else
    let entrypoint := imageEntrypoint inspect
    let command :=
      if startupParts ≠ [] ∧ payload.command = "" ∧ entrypoint ≠ [] then
        "exec " ++ String.ofList (ShellWords.join (entrypoint.map String.toList))
      else payload.command
    buildFinalCommand payload.dockerImage command startupParts

/-- How `docker run` ends. -/
inductive DockerRun
  | exited (returncode : Int) (stdout stderr : String)
  | timedOut
  | notFound
  | raised (text : String)
  deriving DecidableEq

/-- `_run_docker`. -/
def runDocker : DockerRun → Except String String
  | .exited returncode stdout stderr =>
    if returncode ≠ 0 then .error s!"docker run failed: {stderr}" else .ok (strip stdout)
  | .timedOut => .error "docker run timed out"
  | .notFound => .error "docker CLI not found"
  | .raised text => .error text

/-- What one call of `start_session` meets. -/
structure Launch where
  hostPort : Nat
  authToken : String
  inspect : Inspect
  run : DockerRun
  /-- `_wait_for_port`. -/
  portOpens : Bool
  deriving DecidableEq

/-- `start_session`: the handle, or the text of the exception. -/
def startSession (launch : Launch) : Except String SessionHandle :=
  match runDocker launch.run with
  | .error text => .error text
  | .ok containerId =>
    if launch.portOpens then .ok ⟨launch.hostPort, launch.authToken, some containerId, none, "docker"⟩
    else .error "Container port never opened"

/-- What the probe meets on the port. `received` is what `recv` returns or raises. -/
inductive Connection
  | refused (text : String)
  | accepted (received : Except String (List UInt8))

/-- One byte in `repr` of a bytes object. -/
def reprByte (delimiter : Char) (byte : UInt8) : String :=
  let c := Char.ofNat byte.toNat
  if c = delimiter ∨ c = '\\' then String.ofList ['\\', c]
  else if c = '\t' then "\\t"
  else if c = '\n' then "\\n"
  else if c = '\r' then "\\r"
  else if byte < 32 ∨ 127 ≤ byte then
    "\\x" ++ String.ofList [Nat.digitChar (byte.toNat / 16), Nat.digitChar (byte.toNat % 16)]
  else String.singleton c

/-- `repr` of a bytes object. -/
def reprBytes (bytes : List UInt8) : String :=
  let delimiter := if 39 ∈ bytes ∧ 34 ∉ bytes then '"' else '\''
  "b" ++ String.singleton delimiter ++ "".intercalate (bytes.map (reprByte delimiter)) ++ String.singleton delimiter

/-- `probe_session_service`. -/
def probeSessionService (sessionType : String) : Connection → Option String
  | .refused text => some s!"connect/read failed: {text}"
  | .accepted received =>
    if sessionType ≠ "ssh" then none
    else
      match received with
      | .error text => some s!"connect/read failed: {text}"
      | .ok banner =>
        if [83, 83, 72, 45].isPrefixOf banner then none
        else if banner = [] then some "connection closed without banner"
        else some s!"unexpected banner: {reprBytes (banner.take 32)}"

end ComputeCloudNode.DockerWorkbench
