import ComputeCloudNode.DockerExecutor
import ComputeCloudNode.Lib.CommandLine
import ComputeCloudNode.Lib.Fallible
import ComputeCloudNode.Values

/-! The options of `docker run` for a workbench session, which come before the image.
They are the same for all payloads but for their values, so nothing in a payload adds an
option, as long as its image does not look like one. -/
namespace ComputeCloudNode.DockerWorkbench
open CommandLine Workbench

variable {F : Type}

/-- `KNOWN_MINING_POOL_DOMAINS`. -/
def knownMiningPoolDomains : List String :=
  ["pool.minexmr.com", "pool.supportxmr.com", "xmr.pool.minergate.com", "eth.pool.minergate.com",
    "btc.pool.minergate.com", "pool.moneropool.com", "xmrpool.eu", "monero.hashpool.pro", "nanopool.org", "ethermine.org",
    "f2pool.com", "antpool.com", "viabtc.com", "miningrigrentals.com", "nicehash.com", "miningpoolhub.com",
    "dwarfpool.com", "flypool.org", "nanopool.com", "2miners.com", "mine.xmr.ru", "monero.crypto-pool.org"]

/-- The fields of the payload that only the options use. -/
structure Resources (F : Type) where
  containerPort : Value F
  memoryMb : Value F := .int 4096
  /-- The default is 2.0. -/
  cpuCores : Value F

/-- `_ssh_security_args`. -/
def sshSecurityArgs : List Setting :=
  [("--cap-drop", some "ALL"), ("--cap-add", some "SETUID"), ("--cap-add", some "SETGID"),
    ("--cap-add", some "SYS_CHROOT"), ("--cap-add", some "DAC_OVERRIDE"), ("--cap-add", some "CHOWN"),
    ("--cap-add", some "FOWNER"), ("--cap-add", some "KILL"), ("--cap-add", some "NET_BIND_SERVICE"),
    ("-e", some "PASSWORD_ACCESS=true"), ("-e", some "USER_PASSWORD=poolpass"), ("-e", some "USER_NAME=pool"),
    ("-e", some "PUID=0"), ("-e", some "PGID=0")]

/-- The options that depend on the type of the session. -/
def securityArgs (sessionType : String) : List Setting :=
  if sessionType = "ssh" then sshSecurityArgs
  else [("--security-opt", some "no-new-privileges"), ("--cap-drop", some "ALL")]

/-- The variables of the pool, unless there are none. -/
def poolArgs (payload : SessionData) : List Setting :=
  if payload.poolEnv = [] then []
  else
    [("-e", some s!"POOL_API_URL={rstripSlashes payload.httpBaseUrl}"),
      ("-e", some s!"POOL_TOKEN={poolToken payload.poolEnv}"),
      ("-e", some ("POOL_WORKSPACE_ID=" ++ (payload.poolEnv.lookup "POOL_WORKSPACE_ID").getD ""))]

def addHost (domain : String) : Setting := ("--add-host", some s!"{domain}:127.0.0.1")

section Options

variable [PyRuntime F]

/-- The options of `start_session`. -/
def dockerOptions (hostPort : Nat) (resources : Resources F) (payload : SessionData) : Except String (List Setting) := do
  let memory ← resources.memoryMb.toInt
  return [("-d", none), ("-p", some s!"{hostPort}:{resources.containerPort.text}"), ("--memory", some s!"{memory}m"),
    ("--cpus", some resources.cpuCores.text), ("--pids-limit", some "512"), ("--ulimit", some "nofile=4096:8192"),
    ("--tmpfs", some "/tmp:rw,size=256m")] ++ securityArgs payload.sessionType ++ knownMiningPoolDomains.map addHost ++
    poolArgs payload

/-- `docker_cmd` of `start_session`. -/
def dockerCmd (docker : String) (hostPort : Nat) (resources : Resources F) (notebook : String) (payload : SessionData)
    (inspect : Inspect) : Except String (List String) := do
  let options ← dockerOptions hostPort resources payload
  return [docker, "run"] ++ options.flatMap spell ++ containerCommand notebook payload inspect

/-! ### What Docker reads

How `docker run` reads its arguments is a parameter. -/

/-- The options that any payload leads to. -/
def optionNames : List String :=
  ["-p", "--memory", "--cpus", "--pids-limit", "--ulimit", "--tmpfs", "--security-opt", "--cap-drop", "--cap-add",
    "--add-host", "-e"]

/-- `docker run` knows these options. -/
structure SessionOptions (takesValue : String → Option Bool) : Prop where
  detached : takesValue "-d" = some false
  valued : ∀ name ∈ optionNames, takesValue name = some true

/-- An option of these, with its value. -/
def Listed (setting : Setting) : Prop := setting = ("-d", none) ∨ setting.1 ∈ optionNames ∧ setting.2.isSome

variable {takesValue : String → Option Bool} {accepts : Setting → Bool} {read : Reading} {docker notebook : String}
  {hostPort : Nat} {resources : Resources F} {payload : SessionData} {inspect : Inspect} {options : List Setting} {args : List String}

omit [PyRuntime F] in
theorem Listed.known (sessions : SessionOptions takesValue) {setting : Setting} (listed : Listed setting) :
    Known takesValue setting := by
  rcases listed with rfl | ⟨named, valued⟩
  · exact ⟨rfl, by decide, sessions.detached⟩
  · have looks : ∀ name ∈ optionNames, isOption name ∧ name ≠ "--" := by decide
    obtain ⟨option, other⟩ := looks _ named
    exact ⟨option, other, by rw [sessions.valued _ named, valued]⟩

end Options

def jupyterResources : Resources Int where
  containerPort := .int 8888
  cpuCores := .float 2

end ComputeCloudNode.DockerWorkbench
