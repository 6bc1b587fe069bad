import ComputeCloudNode.SessionCleanup
import ComputeCloudNode.Tunnels

/-! What a tunnel reaches when it dials. Its loop outlives its session, so the port it was
given must outlive it too: as long as no port goes to a new container while a session or a
tunnel still counts on it, and every session that ends leaves its port closed, a tunnel that
gets a connection has its own container before it. -/
namespace ComputeCloudNode
open WorkbenchSession NodeSessions

namespace WorkbenchSession

/-- The session is over for the thread: its container was stopped or seen dead. -/
def Pc.ended : Pc → Bool
  | .report .. | .unregister | .returned => true
  | _ => false

variable {thread thread' : Thread} {pc pc' : Pc} {answer : Answer} {effect : Effect}
  {handle : SessionHandle}

theorem owed_of_leaving (leaving : pc.leaving) : pc.owed = none := by
  cases pc with
  | report | unregister | returned => rfl
  | _ => cases leaving

/-- The handle held after a step was held before it or was just returned. -/
theorem step_owed (stepped : WorkbenchSession.step thread answer = some (thread', effect))
    (held : thread'.pc.owed = some handle) : thread.pc.owed = some handle ∨ effect = .started handle := by
  cases dead : answer.reportsDead with
  | true =>
    rw [owed_of_leaving (step_dead dead stepped).2.2] at held
    cases held
  | false =>
    have balanced := step_balanced dead stepped
    rw [held] at balanced
    generalize thread.pc.owed = before at balanced ⊢
    cases balanced with
    | started => exact .inr rfl
    | kept => exact .inl rfl

/-- A container is started by an answer of `start_session`, a tunnel by none. -/
def Effect.Begun (answer : Answer) : Effect → Prop
  | .started handle => answer = .handle handle
  | .tunnelStarted _ => False
  | _ => True

theorem Move.begun (moved : Move thread pc answer pc' effect) : effect.Begun answer := by
  cases moved with
  | healing moved =>
    cases moved with
    | captured rung read => rcases captureLogs_effect read with rfl | rfl <;> trivial
    | started => rfl
    | _ => trivial
  | started | startedDocker => rfl
  | _ => trivial

theorem step_started (stepped : WorkbenchSession.step thread answer = some (thread', .started handle)) :
    answer = .handle handle := by
  rcases step_cases stepped with ⟨_, _, _, same, _⟩ | ⟨_, _, _, _, same, _⟩ | ⟨pc, moved, _⟩
  · cases same
  · cases same
  · exact (pcStep_move moved).begun

/-- The tunnel is started for the handle the thread holds. -/
theorem step_tunnelStarted
    (stepped : WorkbenchSession.step thread answer = some (thread', .tunnelStarted handle)) :
    thread.pc.owed = some handle := by
  rcases step_cases stepped with ⟨_, _, _, same, _⟩ | ⟨given, created, at_, _, same, _⟩ | ⟨pc, moved, _⟩
  · cases same
  · cases same
    rw [at_]
    rfl
  · exact (pcStep_move moved).begun.elim

/-- The program points from the start of the tunnel to the end of the session. -/
def Pc.looping : Pc → Bool
  | .loopTop _ | .heartbeat _ | .alive _ | .scanDue _ | .scan _ | .alert .. | .stopCritical .. | .pause _
  | .stopFinished _ => true
  | _ => false

/-- With this answer the session is over: `stop_session` has come back, or the session is
seen dead. -/
def Pc.finishes : Pc → Answer → Bool
  | .stopCritical .., _ | .stopFinished _, _ => true
  | .alive _, answer => answer.reportsDead
  | _, _ => false

/-- A session that has its tunnel goes on until one of its last calls comes back. -/
theorem Move.looping (moved : Move thread pc answer pc' effect) (running : pc.looping) :
    pc'.looping ∨ pc.finishes answer ∧ pc'.ended := by
  cases moved with
  | stopSeen | goesOn | toldToTerminate | beat | seenAlive | scans | skipsScan | scannedAlert | scannedClean | scanRaised
  | alertedCritical | alerted | paused => exact .inl rfl
  | stoppedCritical | stoppedFinished => exact .inr ⟨rfl, rfl⟩
  | seenDead _ silent => exact .inr ⟨bne_iff_ne.mpr silent, rfl⟩
  | _ => cases running

theorem step_looping (stepped : WorkbenchSession.step thread answer = some (thread', effect))
    (running : thread.pc.looping) : thread'.pc.looping ∨ thread.pc.finishes answer ∧ thread'.pc.ended := by
  rcases step_cases stepped with ⟨_, at_, _⟩ | ⟨_, _, at_, _⟩ | ⟨pc, moved, rfl⟩
  · rw [at_] at running
    cases running
  · rw [at_] at running
    cases running
  · exact (pcStep_move moved).looping running

theorem Move.ended (moved : Move thread pc answer pc' effect) (past : pc.ended) : pc'.ended := by
  cases moved with
  | reportedListed | reportedUnlisted | unregistered => rfl
  | _ => cases past

theorem step_ended (stepped : WorkbenchSession.step thread answer = some (thread', effect))
    (past : thread.pc.ended) : thread'.pc.ended := by
  rcases step_cases stepped with ⟨_, at_, _⟩ | ⟨_, _, at_, _⟩ | ⟨pc, moved, rfl⟩
  · rw [at_] at past
    cases past
  · rw [at_] at past
    cases past
  · exact (pcStep_move moved).ended past

theorem looping_not_ended (running : pc.looping) : pc.ended = false := by
  cases pc with
  | report | unregister | returned => cases running
  | _ => rfl

/-- A thread that has just started its tunnel is in its loop. -/
theorem step_tunnelStarted_looping
    (stepped : WorkbenchSession.step thread answer = some (thread', .tunnelStarted handle)) : thread'.pc.looping := by
  rcases step_cases stepped with ⟨_, _, _, same, _⟩ | ⟨_, _, _, _, _, rfl⟩ | ⟨pc, moved, _⟩
  · cases same
  · rfl
  · exact (pcStep_move moved).begun.elim

end WorkbenchSession

namespace Tunnels

variable {world world' : World} {action : Action} {event : Event} {owner : Owner} {handle : SessionHandle}
  {actions : List Action} {tunnel : Tunnel} {port : Nat}

/-- The tunnel is still in its loop. -/
def Tunnel.live (tunnel : Tunnel) : Bool := tunnel.pc ≠ .finished

/-- A session thread holds a handle with this port, or a tunnel may still dial it. -/
def InUse (world : World) (port : Nat) : Prop :=
  (∃ thread ∈ world.node.threads, ∃ handle ∈ thread.pc.owed, handle.hostPort = port) ∨
    ∃ tunnel ∈ world.tunnels, tunnel.live ∧ tunnel.handle.hostPort = port

/-- Who listens on the port of a handle that `start_session` returns is the container that
the handle names. -/
def HandsOver (world : World) : Answer → Prop
  | .handle handle => ∀ container ∈ world.host.openOn handle.hostPort, handle.containerId = some container.id
  | _ => True

/-- If this answer is the end of the session, nobody listens any more where its tunnels may
still dial. -/
def ClosesPort (world : World) (index : Nat) (answer : Answer) : Prop :=
  ∀ thread ∈ world.node.threads[index]?, thread.pc.finishes answer → ∀ tunnel ∈ world.tunnels,
    tunnel.owner.thread = index → tunnel.live → (world.host.openOn tunnel.handle.hostPort).isNone

/-- No port changes hands while it is in use: `docker run` is given a port that is not,
`start_session` returns the port of its own container, and it is closed when the session
ends. A connection that is accepted is accepted by a container. -/
def PortsKept (world : World) : Action → Prop
  | .dockerRun _ _ port => ¬ InUse world port
  | .node (.advance index answer) => HandsOver world answer ∧ ClosesPort world index answer
  | .tunnel index (.dialed true) =>
    ∀ tunnel ∈ world.tunnels[index]?, (world.host.openOn tunnel.handle.hostPort).isSome
  | _ => True

instance : Decidable (InUse world port) := inferInstanceAs (Decidable (_ ∨ _))

instance : ∀ answer, Decidable (HandsOver world answer)
  | .handle handle => inferInstanceAs (Decidable (∀ container ∈ world.host.openOn handle.hostPort, _))
  | .created _ | .returned | .raised _ | .probe _ | .logs _ | .http _ | .monitor _ | .stopEvent _ | .heartbeat _
  | .alive _ | .scanDue _ | .scanned _ => .isTrue trivial

instance {index : Nat} {answer : Answer} : Decidable (ClosesPort world index answer) :=
  inferInstanceAs (Decidable (∀ thread ∈ world.node.threads[index]?, _))

instance : Decidable (PortsKept world action) :=
  match action with
  | .dockerRun _ _ _ => inferInstanceAs (Decidable (¬ _))
  | .node (.advance _ _) => inferInstanceAs (Decidable (_ ∧ _))
  | .tunnel _ (.dialed true) => inferInstanceAs (Decidable (∀ tunnel ∈ _, _))
  | .tunnel _ (.dialed false) | .tunnel _ (.imported _) | .tunnel _ (.stopEvent _) | .tunnel _ (.websocket _)
  | .tunnel _ .disconnected | .node (.poll _) | .node .stop | .node .runReturns | .exits _ => .isTrue trivial

/-! ### What a kept port leads to -/

/-- Only the owner's container, if any, listens on the port. -/
def Reserved (world : World) (owner : Owner) (port : Nat) : Prop :=
  ∀ container ∈ world.host.openOn port, container.owner = owner

/-- The session of a tunnel has not ended, or its port is closed. -/
def Attended (world : World) (tunnel : Tunnel) : Prop :=
  ∃ thread, world.node.threads[tunnel.owner.thread]? = some thread ∧
    (thread.pc.looping ∨ thread.pc.ended ∧ world.host.openOn tunnel.handle.hostPort = none)

/-- Every port that is in use is reserved, and the tunnels that use one are attended. -/
structure Separate (world : World) : Prop where
  held : ∀ index thread handle, world.node.threads[index]? = some thread → thread.pc.owed = some handle →
    Reserved world ⟨index, thread.sessionId⟩ handle.hostPort
  tunnels : ∀ tunnel ∈ world.tunnels, tunnel.live →
    Reserved world tunnel.owner tunnel.handle.hostPort ∧ Attended world tunnel

/-- What is found on each port that is in use may only become less. -/
theorem Separate.hosted (separate : Separate world) {host : Ports.Host Owner}
    (fewer : ∀ port container, InUse world port → host.openOn port = some container →
      world.host.openOn port = some container) : Separate { world with host := host } := by
  constructor
  · intro index thread handle found owes container listens
    refine separate.held index thread handle found owes container (fewer _ _ (.inl ?_) listens)
    exact ⟨thread, List.mem_of_getElem? found, handle, owes, rfl⟩
  · intro tunnel member live
    obtain ⟨reserved, thread, found, attended⟩ := separate.tunnels tunnel member live
    have used : InUse world tunnel.handle.hostPort := .inr ⟨tunnel, member, live, rfl⟩
    refine ⟨fun container listens => reserved container (fewer _ _ used listens), thread, found, ?_⟩
    refine attended.imp_right fun ⟨ended, closed⟩ => ⟨ended, ?_⟩
    apply Option.eq_none_iff_forall_ne_some.mpr
    intro container listens
    rw [fewer _ _ used listens] at closed
    cases closed

theorem reserved_of_provides (provided : provides world.host owner handle)
    (named : ∀ container ∈ world.host.openOn handle.hostPort, handle.containerId = some container.id) :
    Reserved world owner handle.hostPort := by
  intro container listens
  simp only [provides, List.any_eq_true, Bool.and_eq_true, decide_eq_true_eq] at provided
  obtain ⟨started, member, ⟨identified, _⟩, owned⟩ := provided
  have same : container.id = started.id := Option.some.inj ((named container listens).symm.trans identified)
  rw [world.host.distinct container (Ports.Host.openOn_some listens).1 started member same, owned]

/-- One step of a session thread. -/
theorem separate_advance {node' : Node} {index : Nat} {answer : Answer} {shown : NodeSessions.Event}
    (separate : Separate world) (admitted : admits world (.advance index answer))
    (kept : PortsKept world (.node (.advance index answer))) (advances : Advances index answer world.node node' shown) :
    Separate { world with node := node', tunnels := world.tunnels ++ tunnelsOf shown } := by
  obtain ⟨thread, thread', effect, found, moved, threads, _, rfl⟩ := advances
  obtain ⟨handsOver, closesPort⟩ := kept
  have place : node'.threads[index]? = some thread' := by
    rw [threads, List.getElem?_set_self (List.getElem?_eq_some_iff.mp found).1]
  constructor
  · intro other held handle found' owes
    by_cases moves : index = other
    · subst moves
      rw [place] at found'
      cases found'
      rw [step_sessionId moved]
      rcases step_owed moved owes with before | rfl
      · exact separate.held index thread handle found before
      · cases step_started moved
        exact reserved_of_provides (by simpa only [admits, found] using admitted) handsOver
    · rw [threads, List.getElem?_set_ne moves] at found'
      exact separate.held other held handle found' owes
  · intro tunnel member live
    rcases List.mem_append.mp member with old | new
    · obtain ⟨reserved, before, found', attended⟩ := separate.tunnels tunnel old live
      refine ⟨reserved, ?_⟩
      by_cases moves : index = tunnel.owner.thread
      · subst moves
        cases found.symm.trans found'
        refine ⟨thread', place, ?_⟩
        rcases attended with running | ⟨ended, closed⟩
        · refine (step_looping moved running).imp_right fun ⟨finishes, ended⟩ => ⟨ended, ?_⟩
          exact Option.isNone_iff_eq_none.mp (closesPort thread found finishes tunnel old rfl live)
        · exact .inr ⟨step_ended moved ended, closed⟩
      · exact ⟨before, by rw [threads, List.getElem?_set_ne moves, found'], attended⟩
    · cases effect with
      | tunnelStarted handle =>
        cases List.mem_singleton.mp new
        exact ⟨separate.held index thread handle found (step_tunnelStarted moved), thread', place,
          .inl (step_tunnelStarted_looping moved)⟩
      | _ => cases new

theorem separate_node {node' : Node} {acted : NodeSessions.Action} {shown : NodeSessions.Event}
    (separate : Separate world) (admitted : admits world acted) (kept : PortsKept world (.node acted))
    (stepped : NodeSessions.step world.node acted = some (node', shown)) :
    Separate { world with node := node', tunnels := world.tunnels ++ tunnelsOf shown } := by
  rcases NodeSessions.step_cases stepped with
    ⟨threads, _, ignored⟩ | ⟨id, rfl, spawns⟩ | ⟨index, answer, rfl, advances⟩
  · have silent : tunnelsOf shown = [] := by rcases ignored with rfl | ⟨_, rfl⟩ <;> rfl
    rw [silent, List.append_nil]
    refine ⟨fun index thread handle found => separate.held index thread handle (threads ▸ found),
      fun tunnel member live => ?_⟩
    obtain ⟨reserved, thread, found, attended⟩ := separate.tunnels tunnel member live
    exact ⟨reserved, thread, by rw [threads, found], attended⟩
  · obtain ⟨_, threads, _, rfl⟩ := spawns
    have silent : tunnelsOf (.spawned world.node.threads.length id) = [] := rfl
    rw [silent, List.append_nil]
    constructor
    · intro index thread handle found owes
      rw [threads, List.getElem?_append] at found
      split at found
      · exact separate.held index thread handle found owes
      · cases List.mem_singleton.mp (List.mem_of_getElem? found)
        cases owes
    · intro tunnel member live
      obtain ⟨reserved, thread, found, attended⟩ := separate.tunnels tunnel member live
      refine ⟨reserved, thread, ?_, attended⟩
      rw [threads, List.getElem?_append_left (List.getElem?_eq_some_iff.mp found).1, found]
  · exact separate_advance separate admitted kept advances

theorem separate_step (separate : Separate world) (kept : PortsKept world action)
    (stepped : step world action = some (world', event)) : Separate world' := by
  cases action with
  | node acted =>
    simp only [step, Option.ite_none_right_eq_some, Option.map_eq_some_iff, Prod.exists,
      Prod.mk.injEq] at stepped
    obtain ⟨admitted, node', shown, moved, rfl, rfl⟩ := stepped
    exact separate_node separate admitted kept moved
  | dockerRun index containerId port =>
    simp only [step] at stepped
    split at stepped
    next => cases stepped
    next thread found =>
      simp only [Option.dite_none_right_eq_some, Option.ite_none_right_eq_some, Option.some.injEq,
        Prod.mk.injEq] at stepped
      obtain ⟨granted, _, rfl, rfl⟩ := stepped
      refine separate.hosted fun other container used listens => ?_
      have apart : port ≠ other := by
        rintro rfl
        exact kept used
      rwa [Ports.Host.openOn_bind granted apart] at listens
  | exits containerId =>
    cases stepped
    exact separate.hosted fun _ _ _ listens => Ports.Host.openOn_close listens
  | tunnel index answer =>
    simp only [step] at stepped
    split at stepped
    next => cases stepped
    next tunnel found =>
      simp only [Option.ite_none_right_eq_some, Option.map_eq_some_iff, Prod.mk.injEq] at stepped
      obtain ⟨_, pc, moved, rfl, rfl⟩ := stepped
      refine ⟨separate.held, fun other member live => ?_⟩
      rcases List.mem_or_eq_of_mem_set member with old | rfl
      · exact separate.tunnels other old live
      · have looping : tunnel.live := by
          rw [Tunnel.live, decide_eq_true_eq]
          intro finished
          rw [finished] at moved
          cases moved
        exact separate.tunnels tunnel (List.mem_of_getElem? found) looping

/-- A tunnel that dials with success has a session that is not over and reaches a
container that was run for it. -/
def Isolated (world : World) : Action → Prop
  | .tunnel index (.dialed true) => ∀ tunnel ∈ world.tunnels[index]?,
    (∃ thread ∈ world.node.threads[tunnel.owner.thread]?, thread.pc.ended = false) ∧
      ∃ container ∈ world.host.openOn tunnel.handle.hostPort, container.owner = tunnel.owner
  | _ => True

/-- The container that accepts the connection has the port reserved, and it is there
because the session goes on. -/
theorem Separate.isolated (separate : Separate world) (known : tunnel ∈ world.tunnels) (live : tunnel.live)
    (accepted : (world.host.openOn tunnel.handle.hostPort).isSome) :
    (∃ thread ∈ world.node.threads[tunnel.owner.thread]?, thread.pc.ended = false) ∧
      ∃ container ∈ world.host.openOn tunnel.handle.hostPort, container.owner = tunnel.owner := by
  obtain ⟨container, listens⟩ := Option.isSome_iff_exists.mp accepted
  obtain ⟨reserved, thread, found, attended⟩ := separate.tunnels tunnel known live
  refine ⟨⟨thread, found, ?_⟩, container, listens, reserved container listens⟩
  rcases attended with running | ⟨_, closed⟩
  · exact looping_not_ended running
  · rw [closed] at listens
    cases listens

/-- If no port changes hands while it is in use, no tunnel ever reaches a container that was
not run for its session, nor any container once its session is over. -/
theorem tunnels_isolated (kept : Runs.Meets step PortsKept {} actions) : Runs.Meets step Isolated {} actions := by
  intro before action after split middle shown ran next event stepped
  have first : Separate {} := by
    refine ⟨fun _ _ _ found => ?_, fun _ member => ?_⟩
    · cases found
    · cases member
  have until_ : Runs.Meets step PortsKept {} before := by
    rw [split] at kept
    exact kept.before
  have separate : Separate middle := Runs.run_invariant_of_meets (I := fun world _ _ => Separate world) first
    (fun separate met stepped => separate_step separate met stepped) until_ ran
  have met := kept before action after split middle shown ran next event stepped
  cases action with
  | tunnel index answer =>
    cases answer with
    | dialed ok =>
      cases ok with
      | true =>
        intro tunnel found
        have at_ : tunnel.pc = .dialing := by
          have here : middle.tunnels[index]? = some tunnel := found
          simp only [step, here, Option.ite_none_right_eq_some, Option.map_eq_some_iff] at stepped
          obtain ⟨_, pc, moved, _⟩ := stepped
          generalize tunnel.pc = before at moved
          cases before with
          | dialing => rfl
          | _ => cases moved
        exact separate.isolated (List.mem_of_getElem? found) (by rw [Tunnel.live, at_]; rfl) (met tunnel found)
      | false => trivial
    | _ => trivial
  | _ => trivial

/-- A session that is assigned, started, probed and reported ready. -/
def sessionUp (index : Nat) (id containerId : String) (port : Nat) : List Action :=
  [.node (.poll (.session id)), .node (.advance index (.created .docker)), .dockerRun index containerId port,
    .node (.advance index (.handle ⟨port, "tok", some containerId, none, "docker"⟩)),
    .node (.advance index (.probe none)), .node (.advance index .returned),
    .node (.advance index (.http true)), .node (.advance index (.monitor true))]

/-- A tunnel connects its WebSocket and dials. -/
def dials (index : Nat) : List Action :=
  [.tunnel index (.stopEvent false), .tunnel index (.websocket true), .tunnel index (.dialed true)]

def firstDial : List Action :=
  sessionUp 0 "s1" "c1" 40001 ++ [.tunnel 0 (.imported true)] ++ dials 0

/-- The renter ends the session while its tunnel waits to reconnect. -/
def sessionEnded : List Action :=
  firstDial ++ [.tunnel 0 .disconnected, .node (.advance 0 (.stopEvent false)),
    .node (.advance 0 (.heartbeat .terminate)), .exits "c1", .node (.advance 0 .returned),
    .node (.advance 0 (.http true)), .node (.advance 0 .returned)]

/-- The tunnel finds the port closed and gives up before the port goes to the next
session. -/
def portReleased : List Action :=
  sessionEnded ++ [.tunnel 0 (.stopEvent false), .tunnel 0 (.websocket true), .tunnel 0 (.dialed false)] ++
    sessionUp 1 "s2" "c2" 40001 ++ [.tunnel 1 (.imported true)] ++ dials 1

/-- The port goes to the next session before the tunnel reconnects. -/
def portReused : List Action := sessionEnded ++ sessionUp 1 "s2" "c2" 40001 ++ dials 0

theorem tunnels_isolated_released :
    (∃ (world : World) (events : List Event), Runs.run step {} portReleased = some (world, events) ∧
      events.getLast? = some (.opened ⟨1, "s2"⟩ 40001 (some ⟨1, "s2"⟩))) ∧
        Runs.Meets step Isolated {} portReleased :=
  ⟨⟨_, _, rfl, rfl⟩, tunnels_isolated (by decide)⟩

/-- The tunnel of the ended session `s1` is piped into the container of `s2`. -/
theorem reused_port_crosses_sessions :
    ∃ (world : World) (events : List Event), Runs.run step {} portReused = some (world, events) ∧
      events.getLast? = some (.opened ⟨0, "s1"⟩ 40001 (some ⟨1, "s2"⟩)) ∧
      ∀ thread ∈ world.node.threads[0]?, thread.sessionId = "s1" ∧ thread.pc = .returned :=
  ⟨_, _, rfl, rfl, by decide⟩

end Tunnels
end ComputeCloudNode
