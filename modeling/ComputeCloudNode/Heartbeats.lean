import ComputeCloudNode.TaskLoop
import ComputeCloudNode.Values

/-! The identity of a `ComputeNode`: registration, the heartbeat loops of the two
transports, and every request that carries the node's id. One label is one request
with its answer, so a list of labels is an interleaving of the heartbeat thread
with the main thread and the threads of tasks and sessions.

Two fields of a node are kept for the theorems only: whether the server has said
that it does not know the node, and the id it assigned last.

Left out: log lines, the waiting between heartbeats, and all fields of requests
but the id of the node. -/
namespace ComputeCloudNode.Heartbeats

variable {F : Type}

/-- What an HTTP request brings. The body is missing when `resp.json()` raises. -/
inductive HttpAnswer (F : Type)
  | failed
  | response (status : Nat) (body : Option (Value F))

/-- `resp.raise_for_status()` and `resp.json()`. -/
def HttpAnswer.json : HttpAnswer F → Option (Value F)
  | .failed => none
  | .response status body => if TaskLoop.raiseForStatus status then body else none

/-- `grpc.StatusCode`, without `OK`. -/
inductive StatusCode
  | cancelled | unknown | invalidArgument | deadlineExceeded | notFound | alreadyExists | permissionDenied
  | resourceExhausted | failedPrecondition | aborted | outOfRange | unimplemented | internal | unavailable
  | dataLoss | unauthenticated
  deriving DecidableEq

/-- What a call of a stub brings. `failed` is an exception that is no `RpcError`. -/
inductive RpcAnswer (α : Type)
  | failed
  | rpcError (code : StatusCode)
  | response (message : α)

/-- The answer to a registration, on either transport. -/
structure RegResp (F : Type) where
  accepted : Value F
  nodeId : Value F
  message : Value F

/-- `RegisterNodeResponse`. -/
structure RegisterNodeResponse where
  accepted : Bool
  nodeId : String
  message : String
  deriving DecidableEq

inductive RegisterAnswer (F : Type)
  | http (answer : HttpAnswer F)
  | grpc (answer : RpcAnswer RegisterNodeResponse)

inductive HeartbeatAnswer (F : Type)
  | http (answer : HttpAnswer F)
  | grpc (answer : RpcAnswer Unit)

/-- The end of `_register_http`; nothing when it raises. -/
def registerHttp (answer : HttpAnswer F) : Option (RegResp F) :=
  match answer.json with
  | some (.dict data) => (data.lookup "accepted").map fun accepted =>
    { accepted, nodeId := (data.lookup "node_id").getD (.str ""), message := (data.lookup "message").getD (.str "") }
  | _ => none

/-- `_register_grpc`. -/
def registerGrpc : RpcAnswer RegisterNodeResponse → Option (RegResp F)
  | .response message => some
    { accepted := .bool message.accepted, nodeId := .str message.nodeId, message := .str message.message }
  | _ => none

/-- `_register`. -/
def register : RegisterAnswer F → Option (RegResp F)
  | .http answer => registerHttp answer
  | .grpc answer => registerGrpc answer

def RegisterAnswer.isHttp : RegisterAnswer F → Bool
  | .http _ => true
  | .grpc _ => false

def HeartbeatAnswer.isHttp : HeartbeatAnswer F → Bool
  | .http _ => true
  | .grpc _ => false

/-- The requests of a registered node that carry its id, but for heartbeats. -/
inductive Request
  | pull | result | sessionPull | sessionReady | sessionHeartbeat | sessionTerminated | securityAlert
  deriving DecidableEq

/-- Sessions are served over HTTP only. -/
def Request.needsHttp : Request → Bool
  | .pull => false
  | .result => false
  | _ => true

/-- Where the main thread stands. -/
inductive MainPc
  | connecting
  | running
  /-- `run` raised because the registration failed or was rejected. -/
  | raised
  deriving DecidableEq

/-- Where the heartbeat thread stands. -/
inductive LoopPc
  | notStarted
  /-- At the top of the loop. -/
  | beating
  /-- About to register again. -/
  | reregistering
  deriving DecidableEq

structure Node (F : Type) where
  useHttp : Bool
  /-- `config.node_id`. -/
  nodeId : Value F
  main : MainPc := .connecting
  loop : LoopPc := .notStarted
  stopRequested : Bool := false
  /-- The server has said that it does not know the node, which has not asked for
  registration since. -/
  forgotten : Bool := false
  /-- The id in the last registration that was accepted. -/
  assigned : Option (Value F) := none

inductive Label (F : Type)
  | connectAndRegister (answer : RegisterAnswer F)
  | stop
  | heartbeat (answer : HeartbeatAnswer F)
  | reregister (answer : RegisterAnswer F)
  | request (kind : Request)

/-- What goes out, with the id it carries. -/
inductive Event (F : Type)
  | quiet
  | registration (nodeId : Value F)
  | heartbeat (nodeId : Value F) (answer : HeartbeatAnswer F)
  | request (kind : Request) (nodeId : Value F)

/-- The answer says that the server does not know the node. -/
def saysUnknown : HeartbeatAnswer F → Bool
  | .http (.response status body) =>
    status = 404 || status = 200 && match body with
      | some (.dict data) =>
        match data.lookup "acknowledged" with
        | some (.bool false) => true
        | _ => false
      | _ => false
  | .grpc (.rpcError code) => code = .notFound
  | _ => false

section

variable [PyRuntime F]

/-- The response of a registration that was accepted. -/
def accepted (answer : RegisterAnswer F) : Option (RegResp F) :=
  (register answer).filter fun response => response.accepted.truthy

/-- `_connect_and_register`, from the answer on. -/
def connectAndRegister (node : Node F) (answer : RegisterAnswer F) : Node F :=
  match accepted answer with
  | none => { node with main := .raised }
  | some response =>
    { node with
      main := .running
      loop := .beating
      nodeId := if response.nodeId.truthy then response.nodeId else node.nodeId
      assigned := some response.nodeId }

/-- Whether one round of `_heartbeat_loop_http` registers again. -/
def reregistersHttp (answer : HttpAnswer F) : Bool :=
  match answer.json with
  | some (.dict data) => !((data.lookup "acknowledged").map Value.truthy).getD false
  | _ => false

/-- Whether one round of `_heartbeat_loop_grpc` registers again. -/
def reregistersGrpc : RpcAnswer Unit → Bool
  | .rpcError code => code = .notFound
  | _ => false

def reregisters : HeartbeatAnswer F → Bool
  | .http answer => reregistersHttp answer
  | .grpc answer => reregistersGrpc answer

/-- A round of the heartbeat loop up to the second request. -/
def heartbeat (node : Node F) (answer : HeartbeatAnswer F) : Node F :=
  { node with
    loop := if reregisters answer then .reregistering else .beating
    forgotten := node.forgotten || saysUnknown answer }

/-- The rest of such a round. The response of a registration that is accepted is
written to the log only. -/
def reregister (node : Node F) (answer : RegisterAnswer F) : Node F :=
  let assigned := match accepted answer with
    | none => node.assigned
    | some response => some response.nodeId
  { node with loop := .beating, forgotten := false, assigned }

def step : Runs.Step (Node F) (Label F) (Event F)
  | node, .connectAndRegister answer =>
    if node.main = .connecting ∧ answer.isHttp = node.useHttp then
      some (connectAndRegister node answer, .registration node.nodeId)
    else none
  | node, .stop => some ({ node with stopRequested := true }, .quiet)
  | node, .heartbeat answer =>
    if node.loop = .beating ∧ node.stopRequested = false ∧ answer.isHttp = node.useHttp then
      some (heartbeat node answer, .heartbeat node.nodeId answer)
    else none
  | node, .reregister answer =>
    if node.loop = .reregistering ∧ answer.isHttp = node.useHttp then
      some (reregister node answer, .registration node.nodeId)
    else none
  | node, .request kind =>
    if node.main = .running ∧ (kind.needsHttp = true → node.useHttp = true) then
      some (node, .request kind node.nodeId)
    else none

end

end ComputeCloudNode.Heartbeats
