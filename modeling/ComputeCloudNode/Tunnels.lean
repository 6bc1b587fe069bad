import ComputeCloudNode.Lib.Ports
import ComputeCloudNode.NodeSessions

/-! The tunnels of a node. A session thread that was reported ready starts a
`_run_tunnel` thread, whose reconnect loop ends only when the node stops or when
the container's port refuses a connection. The machine of the node is joined by
one machine for each tunnel and by the Docker host: `docker run -p` succeeds
only on a port no running container has, and a container may exit at any time,
by `stop_session` or by itself.

Which WebSocket connections the server accepts and when they drop are answers.
Left out: the URL with its token, the bytes that are piped, and the backoff,
which only takes time. -/
namespace ComputeCloudNode.Tunnels
open WorkbenchSession NodeSessions

/-- Who ran a container: the session thread and its session. -/
structure Owner where
  thread : Nat
  sessionId : String
  deriving DecidableEq

/-- Program points of `_tunnel_async`. -/
inductive TunnelPc
  /-- Before `import websockets`. -/
  | starting
  | loopTop
  | connecting
  /-- In `asyncio.open_connection`, with the WebSocket open. -/
  | dialing
  | piping
  | finished
  deriving DecidableEq

structure Tunnel where
  owner : Owner
  /-- The handle whose `host_port` the tunnel was given. -/
  handle : SessionHandle
  pc : TunnelPc := .starting
  deriving DecidableEq

inductive TunnelAnswer
  | imported (ok : Bool)
  | stopEvent (set : Bool)
  | websocket (accepted : Bool)
  | dialed (ok : Bool)
  /-- One of the two pumps has ended, or leaving the connection raised. -/
  | disconnected
  deriving DecidableEq

/-- One step of `_tunnel_async`. -/
def tunnelStep : TunnelPc → TunnelAnswer → Option TunnelPc
  | .starting, .imported ok => some (if ok then .loopTop else .finished)
  | .loopTop, .stopEvent set => some (if set then .finished else .connecting)
  | .connecting, .websocket accepted => some (if accepted then .dialing else .loopTop)
  | .dialing, .dialed ok => some (if ok then .piping else .finished)
  | .piping, .disconnected => some .loopTop
  | _, _ => none

structure World where
  node : Node := {}
  host : Ports.Host Owner := .empty
  /-- Every tunnel thread ever started. -/
  tunnels : List Tunnel := []

inductive Action
  | node (action : NodeSessions.Action)
  /-- The `docker run` of a session thread succeeds. -/
  | dockerRun (index : Nat) (containerId : String) (port : Nat)
  | exits (containerId : String)
  | tunnel (index : Nat) (answer : TunnelAnswer)
  deriving DecidableEq

inductive Event
  | quiet
  | node (event : NodeSessions.Event)
  /-- A tunnel has opened a TCP connection; `listener` is the container that
  accepted it, if it was a container. -/
  | opened (owner : Owner) (port : Nat) (listener : Option Owner)
  deriving DecidableEq

/-- In a call of `start_session`. -/
def starting : Pc → Bool
  | .start => true
  | .heal ⟨.start _, _⟩ => true
  | _ => false

/-- The container of the handle was run by this owner. -/
def provides (host : Ports.Host Owner) (owner : Owner) (handle : SessionHandle) : Bool :=
  host.listeners.any fun container =>
    handle.containerId = some container.id && container.port = handle.hostPort && container.owner = owner

/-- `start_session` returns only handles of containers the thread ran. That it is
the one of this call is not used, so the machine allows more runs than the code. -/
def admits (world : World) : NodeSessions.Action → Bool
  | .advance index (.handle handle) =>
    match world.node.threads[index]? with
    | some thread => provides world.host ⟨index, thread.sessionId⟩ handle
    | none => false
  | _ => true

/-- The tunnel threads an event of the node starts. -/
def tunnelsOf : NodeSessions.Event → List Tunnel
  | .effect index id (.tunnelStarted handle) => [{ owner := ⟨index, id⟩, handle := handle }]
  | _ => []

def agrees (world : World) : TunnelAnswer → Bool
  | .stopEvent set => set == world.node.stopRequested
  | _ => true

def eventOf (world : World) (tunnel : Tunnel) : TunnelAnswer → Event
  | .dialed true =>
    .opened tunnel.owner tunnel.handle.hostPort ((world.host.openOn tunnel.handle.hostPort).map (·.owner))
  | _ => .quiet

/-- One step of the node, of the Docker host or of a tunnel. -/
def step : Runs.Step World Action Event
  | world, .node action =>
    if admits world action then
      (NodeSessions.step world.node action).map fun (node, event) =>
        ({ world with node := node, tunnels := world.tunnels ++ tunnelsOf event }, .node event)
    else none
  | world, .dockerRun index containerId port =>
    match world.node.threads[index]? with
    | none => none
    | some thread =>
      if granted : world.host.grants containerId port then
        if starting thread.pc then
          some ({ world with
            host := world.host.bind containerId port ⟨index, thread.sessionId⟩ granted }, .quiet)
        else none
      else none
  | world, .exits containerId => some ({ world with host := world.host.close containerId }, .quiet)
  | world, .tunnel index answer =>
    match world.tunnels[index]? with
    | none => none
    | some tunnel =>
      if agrees world answer then
        (tunnelStep tunnel.pc answer).map fun pc =>
          ({ world with tunnels := world.tunnels.set index { tunnel with pc := pc } },
            eventOf world tunnel answer)
      else none

end ComputeCloudNode.Tunnels
