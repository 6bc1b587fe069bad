import ComputeCloudNode.Tunnels

/-! The bytes in a tunnel. Each time the server accepts its WebSocket, `_tunnel_async`
opens a connection to the container and starts two pumps, one for each direction. The
pumps are closures: they read the variables `ws`, `reader` and `writer` of the loop, which
the next round assigns again. They end before that, so every pump serves the connection
that it was started for.

A pump that is cancelled raises when it runs next, which is before `websockets.connect`
returns. Left out: messages above the limit of 16 MB, with which `ws.recv` raises. -/
namespace ComputeCloudNode.TunnelPumps
open Tunnels

inductive Message
  | text (s : String)
  | binary (bytes : List UInt8)

/-- `data if isinstance(data, bytes) else data.encode()`. -/
def Message.bytes : Message → List UInt8
  | .text s => s.toUTF8.toList
  | .binary bytes => bytes

structure WebSocket where
  /-- The messages of the server. -/
  received : List Message := []
  /-- How many of them `ws.recv` has returned. -/
  taken : Nat := 0
  /-- What `ws.send` has returned from. -/
  sent : List (List UInt8) := []

/-- The `reader` and the `writer` of a connection to the container. -/
structure Stream where
  /-- The bytes of the container. -/
  arrived : List UInt8 := []
  /-- How many of them `reader.read` has returned. -/
  consumed : Nat := 0
  /-- The container has closed the connection. -/
  ended : Bool := false
  written : List UInt8 := []
  /-- After `writer.close`. -/
  closed : Bool := false

/-- Program points of `ws_to_tcp`. -/
inductive UpPc
  | receiving
  | draining
  | ended
  deriving DecidableEq

/-- Program points of `tcp_to_ws`. -/
inductive DownPc
  | reading
  | sending (data : List UInt8)
  /-- After the `break`. -/
  | broken
  /-- After an exception. -/
  | raised
  deriving DecidableEq

/-- The two tasks of a connection. -/
structure Tasks where
  up : UpPc := .receiving
  down : DownPc := .reading
  /-- After `t.cancel()`. -/
  cancelled : Bool := false

def Tasks.upDone (tasks : Tasks) : Bool := tasks.up = .ended

def Tasks.downDone (tasks : Tasks) : Bool := tasks.down = .broken || tasks.down = .raised

/-- How an `await` of a pump ends. -/
inductive Answer
  | received
  | drained
  | upRaised
  | read (count : Nat)
  | eof
  | sent
  | downRaised
  | upCancelled
  | downCancelled

/-- One step of `ws_to_tcp`. -/
def wsToTcp (tasks : Tasks) (ws : WebSocket) (stream : Stream) : Answer → Option (Tasks × WebSocket × Stream)
  | .received =>
    if tasks.up = .receiving ∧ ¬ tasks.cancelled then
      (ws.received[ws.taken]?).map fun data =>
        ({ tasks with up := .draining }, { ws with taken := ws.taken + 1 },
          { stream with written := stream.written ++ data.bytes })
    else none
  | .drained =>
    if tasks.up = .draining ∧ ¬ tasks.cancelled then some ({ tasks with up := .receiving }, ws, stream) else none
  | .upRaised =>
    if ¬ tasks.upDone ∧ ¬ tasks.cancelled then some ({ tasks with up := .ended }, ws, { stream with closed := true })
    else none
  | .upCancelled =>
    if ¬ tasks.upDone ∧ tasks.cancelled then some ({ tasks with up := .ended }, ws, { stream with closed := true })
    else none
  | _ => none

/-- One step of `tcp_to_ws`. -/
def tcpToWs (tasks : Tasks) (ws : WebSocket) (stream : Stream) : Answer → Option (Tasks × WebSocket × Stream)
  | .read count =>
    if tasks.down = .reading ∧ ¬ tasks.cancelled ∧ 0 < count ∧ count ≤ 4096 ∧
        stream.consumed + count ≤ stream.arrived.length then
      some ({ tasks with down := .sending ((stream.arrived.drop stream.consumed).take count) }, ws,
        { stream with consumed := stream.consumed + count })
    else none
  | .eof =>
    -- `writer.close` also ends the reader, whatever the container still sends.
    if tasks.down = .reading ∧ ¬ tasks.cancelled ∧
        (stream.closed ∨ stream.ended ∧ stream.consumed = stream.arrived.length) then
      some ({ tasks with down := .broken }, ws, stream)
    else none
  | .sent =>
    match tasks.down with
    | .sending data =>
      if tasks.cancelled then none
      else some ({ tasks with down := .reading }, { ws with sent := ws.sent ++ [data] }, stream)
    | _ => none
  | .downRaised =>
    if ¬ tasks.downDone ∧ ¬ tasks.cancelled then some ({ tasks with down := .raised }, ws, stream) else none
  | .downCancelled =>
    if ¬ tasks.downDone ∧ tasks.cancelled then some ({ tasks with down := .raised }, ws, stream) else none
  | _ => none

def pumpStep (tasks : Tasks) (ws : WebSocket) (stream : Stream) (answer : Answer) :
    Option (Tasks × WebSocket × Stream) :=
  (wsToTcp tasks ws stream answer).or (tcpToWs tasks ws stream answer)

/-- A run of `_tunnel_async`. The variables of the loop hold the last WebSocket and the
last connection to the container. -/
structure State where
  pc : TunnelPc := .starting
  webSockets : List WebSocket := []
  streams : List Stream := []
  /-- The tasks that were started for each connection. -/
  tasks : List Tasks := []

inductive Action
  | control (answer : TunnelAnswer)
  /-- A pump that was started for this connection. -/
  | pump (index : Nat) (answer : Answer)
  | serverSends (index : Nat) (message : Message)
  | containerSends (index : Nat) (bytes : List UInt8)
  | containerCloses (index : Nat)

/-- What the main coroutine does when an `await` of its own ends. -/
def control (state : State) (pc : TunnelPc) : TunnelAnswer → Option State
  | .websocket true =>
    if state.tasks.all fun tasks => tasks.upDone && tasks.downDone then
      some { state with pc := pc, webSockets := state.webSockets ++ [{}] }
    else none
  | .dialed true => some { state with pc := pc, streams := state.streams ++ [{}], tasks := state.tasks ++ [{}] }
  | .disconnected =>
    match state.tasks.getLast? with
    | some tasks =>
      if tasks.upDone || tasks.downDone then
        some { state with pc := pc, tasks := state.tasks.dropLast ++ [{ tasks with cancelled := true }] }
      else none
    | none => none
  | _ => some { state with pc := pc }

/-- One step of the tunnel, of the server or of the container. -/
def step : Runs.Step State Action Unit
  | state, .control answer => do
    let pc ← tunnelStep state.pc answer
    return (← control state pc answer, ())
  | state, .pump index answer => do
    let tasks ← state.tasks[index]?
    let ws ← state.webSockets[state.webSockets.length - 1]?
    let stream ← state.streams[state.streams.length - 1]?
    let (tasks, ws, stream) ← pumpStep tasks ws stream answer
    return ({ state with
      webSockets := state.webSockets.set (state.webSockets.length - 1) ws
      streams := state.streams.set (state.streams.length - 1) stream
      tasks := state.tasks.set index tasks }, ())
  | state, .serverSends index message => do
    let ws ← state.webSockets[index]?
    return ({ state with webSockets := state.webSockets.set index { ws with received := ws.received ++ [message] } }, ())
  | state, .containerSends index bytes => do
    let stream ← state.streams[index]?
    if stream.ended then none
    else return ({ state with streams := state.streams.set index { stream with arrived := stream.arrived ++ bytes } }, ())
  | state, .containerCloses index => do
    let stream ← state.streams[index]?
    return ({ state with streams := state.streams.set index { stream with ended := true } }, ())

/-! ### One connection -/

/-- What `tcp_to_ws` has read and not yet sent. -/
def Tasks.held (tasks : Tasks) : List UInt8 :=
  match tasks.down with
  | .sending data => data
  | _ => []

/-- Both directions of a connection are relayed in order. -/
structure Relayed (ws : WebSocket) (stream : Stream) (tasks : Tasks) : Prop where
  taken : ws.taken ≤ ws.received.length
  written : stream.written = (ws.received.take ws.taken).flatMap Message.bytes
  consumed : stream.consumed ≤ stream.arrived.length
  sent : tasks.down ≠ .raised → ws.sent.flatten ++ tasks.held = stream.arrived.take stream.consumed
  /-- An exception loses at most one read. -/
  lost : ∃ rest, rest.length ≤ 4096 ∧ ws.sent.flatten ++ rest = stream.arrived.take stream.consumed
  chunks : ∀ data ∈ ws.sent, data ≠ [] ∧ data.length ≤ 4096
  chunk : ∀ data, tasks.down = .sending data → data ≠ [] ∧ data.length ≤ 4096
  broken : tasks.down = .broken → stream.closed ∨ stream.ended ∧ ws.sent.flatten = stream.arrived
  closed : stream.closed ↔ tasks.up = .ended

variable {tasks : Tasks} {ws : WebSocket} {stream : Stream} {answer : Answer} {after : Tasks × WebSocket × Stream}

theorem upDone_iff : tasks.upDone = true ↔ tasks.up = .ended := by simp [Tasks.upDone]

theorem downDone_iff : tasks.downDone = true ↔ tasks.down = .broken ∨ tasks.down = .raised := by
  simp [Tasks.downDone]

theorem wsToTcp_cases (stepped : wsToTcp tasks ws stream answer = some after) :
    (∃ data, tasks.up = .receiving ∧ tasks.cancelled = false ∧ ws.received[ws.taken]? = some data ∧
      after = ({ tasks with up := .draining }, { ws with taken := ws.taken + 1 },
        { stream with written := stream.written ++ data.bytes })) ∨
    (tasks.up = .draining ∧ tasks.cancelled = false ∧ after = ({ tasks with up := .receiving }, ws, stream)) ∨
    (tasks.up ≠ .ended ∧ after = ({ tasks with up := .ended }, ws, { stream with closed := true })) := by
  unfold wsToTcp at stepped
  split at stepped
  case h_1 =>
    split at stepped
    case isFalse => cases stepped
    case isTrue allowed =>
      obtain ⟨data, found, rfl⟩ := Option.map_eq_some_iff.mp stepped
      exact .inl ⟨data, allowed.1, by simpa using allowed.2, found, rfl⟩
  case h_2 =>
    split at stepped
    case isFalse => cases stepped
    case isTrue allowed =>
      cases stepped
      exact .inr (.inl ⟨allowed.1, by simpa using allowed.2, rfl⟩)
  case h_3 =>
    split at stepped
    case isFalse => cases stepped
    case isTrue allowed =>
      cases stepped
      exact .inr (.inr ⟨fun done => allowed.1 (upDone_iff.mpr done), rfl⟩)
  case h_4 =>
    split at stepped
    case isFalse => cases stepped
    case isTrue allowed =>
      cases stepped
      exact .inr (.inr ⟨fun done => allowed.1 (upDone_iff.mpr done), rfl⟩)
  case h_5 => cases stepped

theorem tcpToWs_cases (stepped : tcpToWs tasks ws stream answer = some after) :
    (∃ count, tasks.down = .reading ∧ tasks.cancelled = false ∧ 0 < count ∧ count ≤ 4096 ∧
      stream.consumed + count ≤ stream.arrived.length ∧
      after = ({ tasks with down := .sending ((stream.arrived.drop stream.consumed).take count) }, ws,
        { stream with consumed := stream.consumed + count })) ∨
    (tasks.down = .reading ∧ (stream.closed ∨ stream.ended ∧ stream.consumed = stream.arrived.length) ∧
      after = ({ tasks with down := .broken }, ws, stream)) ∨
    (∃ data, tasks.down = .sending data ∧ tasks.cancelled = false ∧
      after = ({ tasks with down := .reading }, { ws with sent := ws.sent ++ [data] }, stream)) ∨
    (tasks.downDone = false ∧ after = ({ tasks with down := .raised }, ws, stream)) := by
  unfold tcpToWs at stepped
  split at stepped
  case h_1 count =>
    split at stepped
    case isFalse => cases stepped
    case isTrue allowed =>
      cases stepped
      obtain ⟨reading, going, positive, bounded, present⟩ := allowed
      exact .inl ⟨count, reading, by simpa using going, positive, bounded, present, rfl⟩
  case h_2 =>
    split at stepped
    case isFalse => cases stepped
    case isTrue allowed =>
      cases stepped
      exact .inr (.inl ⟨allowed.1, allowed.2.2, rfl⟩)
  case h_3 =>
    split at stepped
    case h_2 => cases stepped
    case h_1 data sending =>
      split at stepped
      case isTrue => cases stepped
      case isFalse going =>
        cases stepped
        exact .inr (.inr (.inl ⟨data, sending, by simpa using going, rfl⟩))
  case h_4 =>
    split at stepped
    case isFalse => cases stepped
    case isTrue allowed =>
      cases stepped
      exact .inr (.inr (.inr ⟨by simpa using allowed.1, rfl⟩))
  case h_5 =>
    split at stepped
    case isFalse => cases stepped
    case isTrue allowed =>
      cases stepped
      exact .inr (.inr (.inr ⟨by simpa using allowed.1, rfl⟩))
  case h_6 => cases stepped

theorem Relayed.start (fresh : ws.taken = 0 ∧ ws.sent = []) : Relayed ws {} {} where
  taken := by omega
  written := by rw [fresh.1, List.take_zero]; rfl
  consumed := Nat.le_refl 0
  sent _ := by rw [fresh.2]; rfl
  lost := ⟨[], by simp, by rw [fresh.2]; rfl⟩
  chunks := by rw [fresh.2]; simp
  chunk := by simp
  broken := by simp
  closed := by simp

theorem Relayed.wsToTcp (relayed : Relayed ws stream tasks)
    (stepped : TunnelPumps.wsToTcp tasks ws stream answer = some after) :
    Relayed after.2.1 after.2.2 after.1 := by
  obtain ⟨data, receiving, -, found, rfl⟩ | ⟨draining, -, rfl⟩ | ⟨going, rfl⟩ := wsToTcp_cases stepped
  · obtain ⟨present, rfl⟩ := List.getElem?_eq_some_iff.mp found
    refine { relayed with taken := present, written := ?_, closed := ?_ }
    · rw [List.take_add_one, found, List.flatMap_append, ← relayed.written]
      simp
    · have open_ : ¬ stream.closed = true := by rw [relayed.closed, receiving]; exact UpPc.noConfusion
      simp [open_]
  · refine { relayed with closed := ?_ }
    have open_ : ¬ stream.closed = true := by rw [relayed.closed, draining]; exact UpPc.noConfusion
    simp [open_]
  · exact { relayed with broken := fun _ => .inl rfl, closed := by simp }

theorem Relayed.tcpToWs (relayed : Relayed ws stream tasks)
    (stepped : TunnelPumps.tcpToWs tasks ws stream answer = some after) :
    Relayed after.2.1 after.2.2 after.1 := by
  obtain ⟨count, reading, -, positive, bounded, present, rfl⟩ | ⟨reading, exhausted, rfl⟩ |
    ⟨data, sending, -, rfl⟩ | ⟨going, rfl⟩ := tcpToWs_cases stepped
  · have before := relayed.sent (by rw [reading]; exact DownPc.noConfusion)
    have size : ((stream.arrived.drop stream.consumed).take count).length = count := by
      rw [List.length_take, List.length_drop]
      omega
    have taken : ws.sent.flatten ++ (stream.arrived.drop stream.consumed).take count =
        stream.arrived.take (stream.consumed + count) := by
      rw [List.take_add, ← before, Tasks.held, reading, List.append_nil]
    refine { relayed with consumed := present, sent := fun _ => taken, lost := ⟨_, ?_, taken⟩, chunk := ?_, broken := ?_ }
    · omega
    · rintro data ⟨⟩
      refine ⟨List.ne_nil_of_length_pos ?_, ?_⟩ <;> omega
    · exact DownPc.noConfusion
  · have before := relayed.sent (by rw [reading]; exact DownPc.noConfusion)
    rw [Tasks.held, reading, List.append_nil] at before
    refine { relayed with sent := fun _ => ?_, chunk := ?_, broken := fun _ => ?_ }
    · rw [Tasks.held, List.append_nil]
      exact before
    · exact fun data => DownPc.noConfusion
    · exact exhausted.imp id fun ⟨ended, all⟩ => ⟨ended, by rw [before, all, List.take_length]⟩
  · have before := relayed.sent (by rw [sending]; exact DownPc.noConfusion)
    rw [Tasks.held, sending] at before
    have sent : (ws.sent ++ [data]).flatten = stream.arrived.take stream.consumed := by
      rw [List.flatten_append, List.flatten_singleton]
      exact before
    refine { relayed with sent := fun _ => ?_, lost := ⟨[], ?_, ?_⟩, chunks := ?_, chunk := ?_, broken := ?_ }
    · rw [Tasks.held, List.append_nil]
      exact sent
    · exact Nat.zero_le _
    · rw [List.append_nil]
      exact sent
    · intro piece found
      rcases List.mem_append.mp found with old | new
      · exact relayed.chunks piece old
      · rw [List.mem_singleton.mp new]
        exact relayed.chunk data sending
    · exact fun data => DownPc.noConfusion
    · exact DownPc.noConfusion
  · exact { relayed with sent := fun raised => absurd rfl raised, chunk := fun data => DownPc.noConfusion,
                         broken := DownPc.noConfusion }

theorem pumpStep_cases (stepped : pumpStep tasks ws stream answer = some after) :
    wsToTcp tasks ws stream answer = some after ∨ tcpToWs tasks ws stream answer = some after :=
  (Option.or_eq_some_iff.mp stepped).imp_right And.right

theorem Relayed.pumpStep (relayed : Relayed ws stream tasks)
    (stepped : TunnelPumps.pumpStep tasks ws stream answer = some after) :
    Relayed after.2.1 after.2.2 after.1 :=
  (pumpStep_cases stepped).elim relayed.wsToTcp relayed.tcpToWs

/-- Both pumps have ended. -/
def Tasks.finished (tasks : Tasks) : Prop := tasks.up = .ended ∧ tasks.downDone = true

/-- A pump moves bytes only between its start and `cancel`; afterwards it only ends. -/
theorem pumpStep_tasks (stepped : pumpStep tasks ws stream answer = some after) :
    ¬ tasks.finished ∧ after.1.cancelled = tasks.cancelled ∧
      (tasks.cancelled = true → after.2.1 = ws ∧
        (after.2.2 = stream ∨ after.2.2 = { stream with closed := true })) := by
  rcases pumpStep_cases stepped with up | down
  · obtain ⟨data, receiving, going, -, rfl⟩ | ⟨draining, going, rfl⟩ | ⟨ended, rfl⟩ := wsToTcp_cases up
    · refine ⟨fun finished => ?_, rfl, ?_⟩
      · exact absurd (receiving.symm.trans finished.1) UpPc.noConfusion
      · simp [going]
    · refine ⟨fun finished => ?_, rfl, ?_⟩
      · exact absurd (draining.symm.trans finished.1) UpPc.noConfusion
      · simp [going]
    · exact ⟨fun finished => ended finished.1, rfl, fun _ => ⟨rfl, .inr rfl⟩⟩
  · obtain ⟨count, reading, going, -, -, -, rfl⟩ | ⟨reading, -, rfl⟩ | ⟨data, sending, going, rfl⟩ |
      ⟨going, rfl⟩ := tcpToWs_cases down
    · refine ⟨fun finished => ?_, rfl, ?_⟩
      · simpa [reading] using downDone_iff.mp finished.2
      · simp [going]
    · refine ⟨fun finished => ?_, rfl, fun _ => ⟨rfl, .inl rfl⟩⟩
      simpa [reading] using downDone_iff.mp finished.2
    · refine ⟨fun finished => ?_, rfl, ?_⟩
      · simpa [sending] using downDone_iff.mp finished.2
      · simp [going]
    · exact ⟨fun finished => by simp [finished.2] at going, rfl, fun _ => ⟨rfl, .inl rfl⟩⟩

theorem Relayed.serverSends (relayed : Relayed ws stream tasks) (message : Message) :
    Relayed { ws with received := ws.received ++ [message] } stream tasks where
  taken := by
    rw [List.length_append]
    exact Nat.le_add_right_of_le relayed.taken
  written := by
    rw [List.take_append_of_le_length relayed.taken]
    exact relayed.written
  consumed := relayed.consumed
  sent := relayed.sent
  lost := relayed.lost
  chunks := relayed.chunks
  chunk := relayed.chunk
  broken := relayed.broken
  closed := relayed.closed

theorem Relayed.containerSends (relayed : Relayed ws stream tasks) (bytes : List UInt8)
    (going : stream.ended = false) :
    Relayed ws { stream with arrived := stream.arrived ++ bytes } tasks where
  taken := relayed.taken
  written := relayed.written
  consumed := by
    rw [List.length_append]
    exact Nat.le_add_right_of_le relayed.consumed
  sent := by
    rw [List.take_append_of_le_length relayed.consumed]
    exact relayed.sent
  lost := by
    rw [List.take_append_of_le_length relayed.consumed]
    exact relayed.lost
  chunks := relayed.chunks
  chunk := relayed.chunk
  broken ended := (relayed.broken ended).imp_right fun closed => absurd closed.1 (by simp [going])
  closed := relayed.closed

theorem Relayed.containerCloses (relayed : Relayed ws stream tasks) :
    Relayed ws { stream with ended := true } tasks :=
  { relayed with broken := fun ended => (relayed.broken ended).imp_right fun closed => ⟨rfl, closed.2⟩ }

/-! ### All connections of a tunnel -/

theorem set_of_getElem? {α : Type} {items : List α} {index : Nat} {item : α} (found : items[index]? = some item) :
    items.set index item = items := by
  obtain ⟨present, rfl⟩ := List.getElem?_eq_some_iff.mp found
  exact List.set_getElem_self present

/-- Every connection is relayed, and only the last one may still be going. -/
structure Consistent (state : State) : Prop where
  tasks : state.tasks.length = state.streams.length
  sockets : state.webSockets.length = state.streams.length ∨
    state.webSockets.length = state.streams.length + 1 ∧ (state.pc = .dialing ∨ state.pc = .finished)
  dialing : state.pc = .dialing → state.webSockets.length = state.streams.length + 1
  superseded : ∀ (index : Nat) tasks, state.tasks[index]? = some tasks → index + 1 < state.webSockets.length →
    tasks.finished
  relayed : ∀ (index : Nat) ws stream tasks, state.webSockets[index]? = some ws → state.streams[index]? = some stream →
    state.tasks[index]? = some tasks → Relayed ws stream tasks
  unused : ∀ ws, state.webSockets[state.streams.length]? = some ws → ws.taken = 0 ∧ ws.sent = []
  stopping : state.pc ≠ .piping → ∀ tasks ∈ state.tasks, tasks.cancelled = true ∨ tasks.finished

theorem consistent_start : Consistent {} where
  tasks := rfl
  sockets := .inl rfl
  dialing := by simp
  superseded := by simp
  relayed := by simp
  unused := by simp
  stopping := by simp

variable {state next : State}

/-- The variables of the loop still belong to the pump that uses them. -/
theorem Consistent.last (consistent : Consistent state) {index : Nat}
    (found : state.tasks[index]? = some tasks) (going : ¬ tasks.finished) :
    state.webSockets.length = index + 1 ∧ state.streams.length = index + 1 := by
  have present : index < state.tasks.length := (List.getElem?_eq_some_iff.mp found).1
  have tasksLength := consistent.tasks
  have newest : ¬ index + 1 < state.webSockets.length :=
    fun older => going (consistent.superseded index tasks found older)
  rcases consistent.sockets with same | ⟨more, -⟩ <;> omega

theorem Consistent.pump (consistent : Consistent state) {index : Nat} (found : state.tasks[index]? = some tasks)
    (current : state.webSockets[state.webSockets.length - 1]? = some ws)
    (container : state.streams[state.streams.length - 1]? = some stream)
    (stepped : pumpStep tasks ws stream answer = some after) :
    Consistent { state with
      webSockets := state.webSockets.set (state.webSockets.length - 1) after.2.1
      streams := state.streams.set (state.streams.length - 1) after.2.2
      tasks := state.tasks.set index after.1 } := by
  obtain ⟨going, cancelled, -⟩ := pumpStep_tasks stepped
  obtain ⟨socketsLast, streamsLast⟩ := consistent.last found going
  have socketIndex : state.webSockets.length - 1 = index := by omega
  have streamIndex : state.streams.length - 1 = index := by omega
  rw [socketIndex] at current ⊢
  rw [streamIndex] at container ⊢
  have before : Relayed ws stream tasks := consistent.relayed index ws stream tasks current container found
  constructor
  case tasks => simpa using consistent.tasks
  case sockets => simpa using consistent.sockets
  case dialing => simpa using consistent.dialing
  case superseded =>
    intro other others at_ older
    have distinct : index ≠ other := by
      rw [List.length_set] at older
      omega
    rw [List.getElem?_set_ne distinct] at at_
    exact consistent.superseded other others at_ (by simpa using older)
  case relayed =>
    intro other socket connection others at_ container' tasks'
    by_cases same : index = other
    · subst same
      rw [List.getElem?_set_self (by omega)] at at_
      rw [List.getElem?_set_self (by omega)] at container'
      rw [List.getElem?_set_self (List.getElem?_eq_some_iff.mp found).1] at tasks'
      cases at_
      cases container'
      cases tasks'
      exact before.pumpStep stepped
    · rw [List.getElem?_set_ne same] at at_ container' tasks'
      exact consistent.relayed other socket connection others at_ container' tasks'
  case unused =>
    intro socket at_
    rw [List.length_set, List.getElem?_eq_none (by rw [List.length_set]; omega)] at at_
    cases at_
  case stopping =>
    intro stopped others member
    rcases List.mem_or_eq_of_mem_set member with old | rfl
    · exact consistent.stopping stopped others old
    · rw [cancelled]
      exact .inl ((consistent.stopping stopped tasks (List.mem_of_getElem? found)).resolve_right going)

/-- The server changes one WebSocket, without what the tunnel took from it or sent. -/
theorem Consistent.server (consistent : Consistent state) {index : Nat} {socket : WebSocket}
    (found : state.webSockets[index]? = some ws) (same : socket.taken = ws.taken ∧ socket.sent = ws.sent)
    (receives : ∀ stream tasks, Relayed ws stream tasks → Relayed socket stream tasks) :
    Consistent { state with webSockets := state.webSockets.set index socket } := by
  have present : index < state.webSockets.length := (List.getElem?_eq_some_iff.mp found).1
  refine { consistent with sockets := ?_, dialing := ?_, superseded := ?_, relayed := ?_, unused := ?_ }
  · simpa using consistent.sockets
  · simpa using consistent.dialing
  · simpa using consistent.superseded
  · intro other others stream tasks at_ container tasks'
    by_cases here : index = other
    · subst here
      rw [List.getElem?_set_self present] at at_
      cases at_
      exact receives stream tasks (consistent.relayed index ws stream tasks found container tasks')
    · rw [List.getElem?_set_ne here] at at_
      exact consistent.relayed other others stream tasks at_ container tasks'
  · intro others at_
    by_cases here : index = state.streams.length
    · rw [← here, List.getElem?_set_self present] at at_
      cases at_
      rw [same.1, same.2]
      exact consistent.unused ws (here ▸ found)
    · rw [List.getElem?_set_ne here] at at_
      exact consistent.unused others at_

/-- The container changes one of its connections. -/
theorem Consistent.container (consistent : Consistent state) {index : Nat} {connection : Stream}
    (found : state.streams[index]? = some stream)
    (arrives : ∀ ws tasks, Relayed ws stream tasks → Relayed ws connection tasks) :
    Consistent { state with streams := state.streams.set index connection } := by
  have present : index < state.streams.length := (List.getElem?_eq_some_iff.mp found).1
  refine { consistent with tasks := ?_, sockets := ?_, dialing := ?_, relayed := ?_, unused := ?_ }
  · simpa using consistent.tasks
  · simpa using consistent.sockets
  · simpa using consistent.dialing
  · intro other ws others tasks at_ container tasks'
    by_cases here : index = other
    · subst here
      rw [List.getElem?_set_self present] at container
      cases container
      exact arrives ws tasks (consistent.relayed index ws stream tasks at_ found tasks')
    · rw [List.getElem?_set_ne here] at container
      exact consistent.relayed other ws others tasks at_ container tasks'
  · simpa using consistent.unused

/-! ### The main coroutine -/

/-- A new WebSocket is accepted only when every earlier pump has ended. -/
theorem Consistent.accepted (consistent : Consistent state) (connecting : state.pc = .connecting)
    (finished : ∀ tasks ∈ state.tasks, tasks.finished) :
    Consistent { state with pc := .dialing, webSockets := state.webSockets ++ [{}] } := by
  have same : state.webSockets.length = state.streams.length :=
    consistent.sockets.resolve_right (by simp [connecting])
  constructor
  case tasks => exact consistent.tasks
  case sockets => exact .inr ⟨by simp [same], .inl rfl⟩
  case dialing => simp [same]
  case superseded => exact fun index tasks found older => finished tasks (List.mem_of_getElem? found)
  case relayed =>
    intro index ws stream tasks found container tasks'
    have older : index < state.webSockets.length := by
      rw [same]
      exact (List.getElem?_eq_some_iff.mp container).1
    rw [List.getElem?_append_left older] at found
    exact consistent.relayed index ws stream tasks found container tasks'
  case unused =>
    intro ws found
    rw [← same] at found
    simp only [List.getElem?_concat_length, Option.some.injEq] at found
    subst found
    exact ⟨rfl, rfl⟩
  case stopping => exact fun _ tasks member => .inr (finished tasks member)

theorem Consistent.dialed (consistent : Consistent state) (dialing : state.pc = .dialing) :
    Consistent { state with pc := .piping, streams := state.streams ++ [{}], tasks := state.tasks ++ [{}] } := by
  have more := consistent.dialing dialing
  have tasksLength := consistent.tasks
  constructor
  case tasks => simpa using consistent.tasks
  case sockets => exact .inl (by simp [more])
  case dialing => exact TunnelPc.noConfusion
  case superseded =>
    intro index tasks found older
    have earlier : index < state.tasks.length := by
      dsimp only at older
      omega
    rw [List.getElem?_append_left earlier] at found
    exact consistent.superseded index tasks found older
  case relayed =>
    intro index ws stream tasks found container tasks'
    by_cases earlier : index < state.streams.length
    · rw [List.getElem?_append_left earlier] at container
      rw [List.getElem?_append_left (by omega)] at tasks'
      exact consistent.relayed index ws stream tasks found container tasks'
    · have newest : index = state.streams.length := by
        have bound := (List.getElem?_eq_some_iff.mp container).1
        rw [List.length_append, List.length_singleton] at bound
        omega
      subst newest
      rw [List.getElem?_concat_length] at container
      rw [← tasksLength, List.getElem?_concat_length] at tasks'
      cases container
      cases tasks'
      exact .start (consistent.unused ws found)
  case unused =>
    intro ws found
    have bound := (List.getElem?_eq_some_iff.mp found).1
    simp only [List.length_append, List.length_singleton, more] at bound
    omega
  case stopping => exact fun stopped => absurd rfl stopped

/-- `asyncio.wait` has returned and the pending pump is cancelled. -/
theorem Consistent.disconnected (consistent : Consistent state) (piping : state.pc = .piping)
    (last : state.tasks.getLast? = some tasks) :
    Consistent { state with pc := .loopTop, tasks := state.tasks.dropLast ++ [{ tasks with cancelled := true }] } := by
  have split : state.tasks = state.tasks.dropLast ++ [tasks] := (List.dropLast_append_getLast? tasks last).symm
  have size : state.tasks.dropLast.length + 1 = state.streams.length := by
    rw [← consistent.tasks, ← List.dropLast_append_getLast? tasks last, List.dropLast_concat]
    simp
  have same : state.webSockets.length = state.streams.length :=
    consistent.sockets.resolve_right (by simp [piping])
  have found : state.tasks[state.tasks.dropLast.length]? = some tasks := by
    rw [List.length_dropLast, ← List.getLast?_eq_getElem?]
    exact last
  constructor
  case tasks => simpa using size
  case sockets => exact .inl same
  case dialing => exact TunnelPc.noConfusion
  case superseded =>
    intro index others at_ older
    have earlier : index < state.tasks.dropLast.length := by
      dsimp only at older
      omega
    rw [List.getElem?_append_left earlier] at at_
    refine consistent.superseded index others ?_ older
    rw [split, List.getElem?_append_left earlier]
    exact at_
  case relayed =>
    intro index ws stream others at_ container tasks'
    by_cases earlier : index < state.tasks.dropLast.length
    · rw [List.getElem?_append_left earlier] at tasks'
      refine consistent.relayed index ws stream others at_ container ?_
      rw [split, List.getElem?_append_left earlier]
      exact tasks'
    · have newest : index = state.tasks.dropLast.length := by
        have bound := (List.getElem?_eq_some_iff.mp container).1
        dsimp only at bound
        omega
      subst newest
      rw [List.getElem?_concat_length] at tasks'
      cases tasks'
      exact { consistent.relayed _ ws stream tasks at_ container found with }
  case unused => exact consistent.unused
  case stopping =>
    intro _ others member
    rcases List.mem_append.mp member with old | new
    · obtain ⟨index, at_⟩ := List.mem_iff_getElem?.mp old
      have earlier : index < state.tasks.dropLast.length := (List.getElem?_eq_some_iff.mp at_).1
      refine .inr (consistent.superseded index others ?_ (by omega))
      rw [split, List.getElem?_append_left earlier]
      exact at_
    · rw [List.mem_singleton.mp new]
      exact .inl rfl

theorem Consistent.moves (consistent : Consistent state) {pc : TunnelPc} (stopped : state.pc ≠ .piping)
    (settled : pc ≠ .dialing) (ends : state.pc = .dialing → pc = .finished)
    (kept : state.pc ≠ .finished) : Consistent { state with pc := pc } := by
  refine { consistent with sockets := ?_, dialing := fun dialing => absurd dialing settled,
                           stopping := fun _ => consistent.stopping stopped }
  exact consistent.sockets.imp_right fun ⟨more, where_⟩ => ⟨more, .inr (ends (where_.resolve_right kept))⟩

theorem Consistent.control (consistent : Consistent state) {pc : TunnelPc} {answer : TunnelAnswer}
    (moved : tunnelStep state.pc answer = some pc) (acted : TunnelPumps.control state pc answer = some next) :
    Consistent next := by
  unfold tunnelStep at moved
  split at moved
  case h_1 at_ =>
    cases moved
    cases acted
    refine consistent.moves ?_ ?_ ?_ ?_ <;> simp [at_]
    split <;> simp
  case h_2 at_ =>
    cases moved
    cases acted
    refine consistent.moves ?_ ?_ ?_ ?_ <;> simp [at_]
    split <;> simp
  case h_3 accepted at_ =>
    cases moved
    cases accepted with
    | false =>
      cases acted
      refine consistent.moves ?_ ?_ ?_ ?_ <;> simp [at_]
    | true =>
      simp only [TunnelPumps.control, Option.ite_none_right_eq_some] at acted
      obtain ⟨finished, acted⟩ := acted
      cases acted
      refine consistent.accepted at_ fun tasks member => ?_
      have both := List.all_eq_true.mp finished tasks member
      rw [Bool.and_eq_true] at both
      exact ⟨upDone_iff.mp both.1, both.2⟩
  case h_4 ok at_ =>
    cases moved
    cases ok with
    | false =>
      cases acted
      refine consistent.moves ?_ ?_ ?_ ?_ <;> simp [at_]
    | true =>
      cases acted
      exact consistent.dialed at_
  case h_5 at_ =>
    cases moved
    simp only [TunnelPumps.control] at acted
    split at acted
    case h_2 => cases acted
    case h_1 tasks last =>
      split at acted
      case isFalse => cases acted
      case isTrue =>
        cases acted
        exact consistent.disconnected at_ last
  case h_6 => cases moved

theorem Consistent.step (consistent : Consistent state) {action : Action}
    (stepped : TunnelPumps.step state action = some (next, ())) : Consistent next := by
  cases action with
  | control answer =>
    simp only [TunnelPumps.step, Option.bind_eq_bind, Option.bind_eq_some_iff, Option.pure_def, Option.some.injEq,
      Prod.mk.injEq, and_true] at stepped
    obtain ⟨pc, moved, state, acted, rfl⟩ := stepped
    exact consistent.control moved acted
  | pump index answer =>
    simp only [TunnelPumps.step, Option.bind_eq_bind, Option.bind_eq_some_iff, Option.pure_def, Option.some.injEq,
      Prod.mk.injEq, and_true] at stepped
    obtain ⟨tasks, found, ws, current, stream, container, after, pumped, rfl⟩ := stepped
    exact consistent.pump found current container pumped
  | serverSends index message =>
    simp only [TunnelPumps.step, Option.bind_eq_bind, Option.bind_eq_some_iff, Option.pure_def, Option.some.injEq,
      Prod.mk.injEq, and_true] at stepped
    obtain ⟨ws, found, rfl⟩ := stepped
    exact consistent.server found ⟨rfl, rfl⟩ fun _ _ relayed => relayed.serverSends message
  | containerSends index bytes =>
    simp only [TunnelPumps.step, Option.bind_eq_bind, Option.bind_eq_some_iff] at stepped
    obtain ⟨stream, found, sent⟩ := stepped
    split at sent
    case isTrue => cases sent
    case isFalse going =>
      cases sent
      exact consistent.container found fun _ _ relayed => relayed.containerSends bytes (by simpa using going)
  | containerCloses index =>
    simp only [TunnelPumps.step, Option.bind_eq_bind, Option.bind_eq_some_iff, Option.pure_def, Option.some.injEq,
      Prod.mk.injEq, and_true] at stepped
    obtain ⟨stream, found, rfl⟩ := stepped
    exact consistent.container found fun _ _ relayed => relayed.containerCloses

variable {actions : List Action} {shown : List Unit}

theorem run_consistent (ran : Runs.run step {} actions = some (state, shown)) : Consistent state :=
  Runs.run_state_invariant consistent_start (fun consistent stepped => consistent.step stepped) ran

variable (next) in
/-- Under every schedule of the two pumps, of reconnections, of the server and of the
container, each connection is relayed in order in both directions. Only the last one may
still be going, and what came before it was closed; bytes move only while the main
coroutine waits for the pumps. -/
theorem tunnel_relays_in_order (ran : Runs.run step {} actions = some (state, shown)) :
    (∀ (index : Nat) ws stream tasks, state.webSockets[index]? = some ws → state.streams[index]? = some stream →
      state.tasks[index]? = some tasks → Relayed ws stream tasks ∧
        (index + 1 < state.webSockets.length → tasks.finished ∧ stream.closed)) ∧
    ∀ index answer, state.pc ≠ .piping → step state (.pump index answer) = some (next, ()) →
      next.webSockets = state.webSockets ∧
        next.streams.map (fun stream => (stream.written, stream.consumed)) =
          state.streams.map fun stream => (stream.written, stream.consumed) := by
  have consistent := run_consistent ran
  constructor
  · intro index ws stream tasks found container tasks'
    have relayed := consistent.relayed index ws stream tasks found container tasks'
    refine ⟨relayed, fun older => ?_⟩
    have finished := consistent.superseded index tasks tasks' older
    exact ⟨finished, relayed.closed.mpr finished.1⟩
  · intro index answer stopped stepped
    simp only [step, Option.bind_eq_bind, Option.bind_eq_some_iff, Option.pure_def, Option.some.injEq,
      Prod.mk.injEq, and_true] at stepped
    obtain ⟨tasks, found, ws, current, stream, container, after, pumped, rfl⟩ := stepped
    obtain ⟨going, -, cancelled⟩ := pumpStep_tasks pumped
    obtain ⟨same, connection⟩ := cancelled
      ((consistent.stopping stopped tasks (List.mem_of_getElem? found)).resolve_right going)
    constructor
    · dsimp only
      rw [same]
      exact set_of_getElem? current
    · have kept : (after.2.2.written, after.2.2.consumed) = (stream.written, stream.consumed) := by
        rcases connection with old | closed
        · rw [old]
        · rw [closed]
      rw [List.map_set, kept]
      exact set_of_getElem? (by rw [List.getElem?_map, container]; rfl)

/-- The server disconnects while a read waits in `ws.send`, and the tunnel reconnects. -/
def reconnecting : List Action :=
  [.control (.imported true), .control (.stopEvent false), .control (.websocket true), .control (.dialed true),
    .serverSends 0 (.binary [71]), .pump 0 .received, .containerSends 0 [83, 83, 72], .pump 0 (.read 2), .pump 0 .drained,
    .pump 0 .sent, .pump 0 (.read 1), .pump 0 .upRaised, .control .disconnected, .pump 0 .downCancelled,
    .control (.stopEvent false), .control (.websocket true), .control (.dialed true), .containerSends 1 [83]]

def firstSocket : WebSocket := { received := [.binary [71]], taken := 1, sent := [[83, 83]] }

def firstStream : Stream := { arrived := [83, 83, 72], consumed := 3, written := [71], closed := true }

def firstTasks : Tasks := { up := .ended, down := .raised, cancelled := true }

def reconnected : State where
  pc := .piping
  webSockets := [firstSocket, {}]
  streams := [firstStream, { arrived := [83] }]
  tasks := [firstTasks, {}]

/-- The first connection when the main coroutine has cancelled its pumps. -/
def disconnected : State where
  pc := .loopTop
  webSockets := [firstSocket]
  streams := [firstStream]
  tasks := [{ up := .ended, down := .sending [72], cancelled := true }]

theorem tunnel_relays_in_order_reconnecting :
    Relayed firstSocket firstStream firstTasks ∧ firstTasks.finished ∧ firstStream.closed ∧
      { disconnected with tasks := [firstTasks] }.webSockets = disconnected.webSockets := by
  have ran : Runs.run step {} reconnecting = some (reconnected, List.replicate 18 ()) := rfl
  have relays := (tunnel_relays_in_order reconnected ran).1 0 firstSocket firstStream firstTasks rfl rfl rfl
  have stopped : Runs.run step {} (reconnecting.take 13) = some (disconnected, List.replicate 13 ()) := rfl
  have kept := (tunnel_relays_in_order { disconnected with tasks := [firstTasks] } stopped).2 0 .downCancelled
    (by decide) rfl
  exact ⟨relays.1, (relays.2 (by decide)).1, (relays.2 (by decide)).2, kept.1⟩

end ComputeCloudNode.TunnelPumps
