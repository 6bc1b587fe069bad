import ComputeCloudNode.Lib.CommandLine
import ComputeCloudNode.LocalExecutor

/-! `docker_executor.py`: the command of a task runs in a container of the image that its
payload names. Docker reads the hardening, the limits of the payload and the arguments of
the node as options, and the command as one argument of the shell; what it makes of the
image depends on how the image begins. -/
namespace ComputeCloudNode.TemplateJobs
open CommandLine LocalExecutor Uri

variable {F : Type}

/-- `DockerExecutor`. The timeout is 600.0 unless the node sets it. -/
structure DockerExecutor (F : Type) where
  defaultTimeoutSeconds : F
  allowedImagePrefixes : List String := []
  extraDockerArgs : List String := []

/-- How `subprocess.run` ends. -/
inductive Ending
  | finished (returnCode : Int) (output : Except String (String × String))
  | timedOut (stdout : Option Captured)
  | notFound
  | failed (text : String)

/-- The Docker CLI: what `_find_docker` answers, and its runs. -/
structure DockerCli (F : Type) where
  path : String
  run : List String → F → Ending

/-! ### The payload -/

section Payload

variable [PyRuntime F]

def imageRequired : String :=
  "DockerExecutor requires an 'image' key in the task payload (e.g. 'python:3.12-slim'). " ++
    "Use LocalProcessExecutor for plain shell tasks."

variable (F) in
/-- The check of the allow-list. -/
def checkImage (prefixes : List String) (image : String) : Except String String :=
  if prefixes ≠ [] ∧ ¬ prefixes.any (startsWith image.toList) then
    .error s!"Image '{image}' is not in this node's allow-list ({(Value.list (prefixes.map .str) : Value F).repr})"
  else .ok image

/-- `_extract_image`. -/
def extractImage (executor : DockerExecutor F) (payload : Value F) : Except String String :=
  if payload.truthy then
    match payload with
    | .dict items =>
      match (items.lookup "image").filter Value.truthy with
      | some image => checkImage F executor.allowedImagePrefixes image.text
      | none => .error imageRequired
    | v => .error s!"'{v.typeName}' object has no attribute 'get'"
  else .error imageRequired

/-- `_extract_command`. -/
def extractCommand : Value F → Except String String
  | .null => .error "DockerExecutor requires a task payload"
  | .dict items =>
    match (["command", "cmd", "shell"].filterMap fun key => items.lookup key).find? fun v => !v.isNone with
    | some v => .ok (commandText v)
    | none => .error "DockerExecutor: payload must contain a 'command' key"
  | v => .error s!"'{v.typeName}' object has no attribute 'get'"

variable [PyFloat F]

/-- `_extract_timeout`. `_extract_image` has refused what is no dict. -/
def extractTimeout (executor : DockerExecutor F) : Value F → Except String F
  | .dict items =>
    match items.lookup "timeout_seconds" with
    | some v =>
      match toFloat v with
      | .ok timeout => .ok timeout
      | .error (some text) => .error text
      | .error none => .ok executor.defaultTimeoutSeconds
    | none => .ok executor.defaultTimeoutSeconds
  | _ => .ok executor.defaultTimeoutSeconds

/-- The text of the exception that `float` raises. -/
def floatError (v : Value F) : Option String → String
  | some text => text
  | none =>
    match v with
    | .str s => s!"could not convert string to float: {Value.reprStr F s}"
    | v => s!"float() argument must be a string or a real number, not '{v.typeName}'"

/-! ### The arguments of `docker run` -/

/-- The first options of `_build_docker_command`. -/
def hardening : List Setting :=
  [("--rm", none), ("--security-opt", some "no-new-privileges"), ("--cap-drop", some "ALL"),
    ("--pids-limit", some "256"), ("--ulimit", some "nofile=1024:4096"), ("--read-only", none),
    ("--tmpfs", some "/tmp:rw,size=64m")]

/-- `float(v)`, which may raise. -/
def float (v : Value F) : Except String F :=
  match toFloat v with
  | .ok x => .ok x
  | .error text => .error (floatError v text)

/-- The options for a field of the payload, unless it is missing or false. -/
def limit (payload : Dict F) (key : String) (settings : Value F → Except String (List Setting)) :
    Except String (List Setting) :=
  match (payload.lookup key).filter Value.truthy with
  | some v => settings v
  | none => .ok []

/-- The options that the payload asks for. -/
def limits (payload : Dict F) : Except String (List Setting) := do
  let gpus ← limit payload "gpu" fun _ => .ok [("--gpus", some "all")]
  let memory ← limit payload "memory_mb" fun memoryMb => do return [("--memory", some s!"{← memoryMb.toInt}m")]
  let cpus ← limit payload "cpu_cores" fun cpuCores => do
    return [("--cpus", some (PyRuntime.repr (← float cpuCores)))]
  return gpus ++ memory ++ cpus

/-- `_build_docker_command`. -/
def buildDockerCommand (executor : DockerExecutor F) (docker image command : String) (payload : Value F) :
    Except String (List String) := do
  let items := match payload with
    | .dict items => items
    | _ => []
  let limits ← limits items
  return [docker, "run"] ++ (hardening ++ limits).flatMap spell ++ executor.extraDockerArgs ++
    [image, "/bin/sh", "-c", command]

/-! ### Running it -/

/-- What `execute` hands to `_run`. -/
structure Request (F : Type) where
  image : String
  command : String
  timeout : F
  dockerCmd : List String

def request (executor : DockerExecutor F) (docker : String) (payload : Value F) : Except String (Request F) := do
  let image ← extractImage executor payload
  let command ← extractCommand payload
  let timeout ← extractTimeout executor payload
  let dockerCmd ← buildDockerCommand executor docker image command payload
  return { image, command, timeout, dockerCmd }

omit [PyFloat F] in
/-- `_run`, once `subprocess.run` has ended. -/
def commandResult (host : Host F) (timeout : F) : Ending → Except String CommandResult
  | .finished returnCode (.ok (stdout, stderr)) => .ok { returnCode, stdout, stderr }
  | .finished _ (.error text) => .error text
  | .timedOut stdout => do
    return { returnCode := -1, stdout := ← partialText host stdout,
             stderr := s!"Container timed out after {PyRuntime.repr timeout}s" }
  | .notFound =>
    .ok { returnCode := -1, stdout := "", stderr := "docker CLI not found — install Docker to run template jobs" }
  | .failed text => .error text

/-- `execute`. -/
def execute (host : Host F) (cli : DockerCli F) (executor : DockerExecutor F) (payload : Value F) :
    Except String (Dict F) := do
  let request ← request executor cli.path payload
  let result ← commandResult host request.timeout (cli.run request.dockerCmd request.timeout)
  return [("image", .str request.image), ("command", .str request.command), ("return_code", .int result.returnCode),
    ("stdout", .str result.stdout), ("stderr", .str result.stderr)]

/-! ### What Docker reads

How `docker run` reads its arguments is a parameter. -/

/-- `docker run` knows the options that the executor writes by itself. -/
structure DockerOptions (takesValue : String → Option Bool) : Prop where
  hardening : ∀ setting ∈ hardening, Known takesValue setting
  limits : ∀ name ∈ ["--gpus", "--memory", "--cpus"], takesValue name = some true

variable {executor : DockerExecutor F} {docker : String} {payload : Value F} {requested : Request F}
  {takesValue : String → Option Bool} {accepts : Setting → Bool} {read : Reading} {items : Dict F}
  {settings extra : List Setting} {image : String} {prefixes : List String}

/-- One of the three options that the payload may set. -/
def FromPayload (setting : Setting) : Prop := setting.1 ∈ ["--gpus", "--memory", "--cpus"] ∧ setting.2.isSome

omit [PyRuntime F] [PyFloat F] in
theorem FromPayload.known (options : DockerOptions takesValue) {setting : Setting} (named : FromPayload setting) :
    Known takesValue setting := by
  obtain ⟨listed, valued⟩ := named
  refine ⟨?_, ?_, by rw [options.limits setting.1 listed, valued]⟩
  · simp only [List.mem_cons, List.not_mem_nil, or_false] at listed
    rcases listed with same | same | same <;> rw [same] <;> rfl
  · rintro same
    rw [same] at listed
    simp at listed

/-- An image with one of these prefixes does not look like an option. -/
def Plain (prefixes : List String) : Prop := ∀ allowed ∈ prefixes, ∃ c rest, allowed.toList = c :: rest ∧ c ≠ '-'

end Payload

/-- What `docker run` says of its options, as far as they occur here. -/
def dockerRun (name : String) : Option Bool :=
  if name ∈ ["--rm", "--read-only", "--privileged"] then some false
  else if name ∈ ["--security-opt", "--cap-drop", "--pids-limit", "--ulimit", "--tmpfs", "--gpus", "--memory", "--cpus",
    "--network"] then some true
  else none

end ComputeCloudNode.TemplateJobs
