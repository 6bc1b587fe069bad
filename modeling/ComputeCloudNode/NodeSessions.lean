import ComputeCloudNode.SessionReports
import Mathlib.Data.List.AList

/-! The sessions of one node in HTTP mode. The poll thread of `run` asks for
sessions and spawns a daemon thread for each; the session threads run
`_run_session_container` side by side and share `_active_sessions` and
`_stop_event` with it. An action is one step of one of these threads. -/
namespace ComputeCloudNode.NodeSessions
open WorkbenchSession

/-- What `session/pull` brings. `malformed` is a body on which the code after the
`try` raises: not an object, or a `session_id` that cannot be sliced or hashed; a body
of the task pull on which `_poll_once` raises leaves `run` in the same way. A body
without `session_id` counts as `noSession`, as its thread fails at once. -/
inductive SessionPull
  | failed
  | malformed
  | noSession
  | session (sessionId : String)
  deriving DecidableEq

structure Node where
  /-- `_active_sessions`. -/
  active : AList fun _ : String => SessionHandle := ∅
  /-- Every session thread ever started, in the order of the polls. -/
  threads : List Thread := []
  stopRequested : Bool := false
  /-- `run` has come back, normally or by an exception of the poll. -/
  runReturned : Bool := false
  deriving DecidableEq

inductive Action
  | poll (answer : SessionPull)
  | advance (index : Nat) (answer : Answer)
  | stop
  | runReturns
  deriving DecidableEq

inductive Event
  | quiet
  /-- The session is in `_active_sessions` already. -/
  | ignored (sessionId : String)
  | spawned (index : Nat) (sessionId : String)
  | effect (index : Nat) (sessionId : String) (effect : Effect)
  deriving DecidableEq

/-- What the effect of a session thread does to `_active_sessions`. -/
def activeAfter (active : AList fun _ : String => SessionHandle) (sessionId : String) :
    Effect → AList fun _ : String => SessionHandle
  | .registered handle => active.insert sessionId handle
  | .unregistered => active.erase sessionId
  | _ => active

/-- `_session_poll_once`. -/
def sessionPollOnce (node : Node) : SessionPull → Node × Event
  | .failed => (node, .quiet)
  | .noSession => (node, .quiet)
  -- The exception leaves `run`; `_stop_event` stays clear.
  | .malformed => ({ node with runReturned := true }, .quiet)
  | .session id =>
    if id ∈ node.active then (node, .ignored id)
    else ({ node with threads := node.threads ++ [spawn id] }, .spawned node.threads.length id)

/-- The loop condition of a session thread reads the shared `_stop_event`. -/
def consistent (node : Node) : Answer → Bool
  | .stopEvent set => set == node.stopRequested
  | _ => true

/-- One step of one thread of the node. -/
def step : Runs.Step Node Action Event
  | node, .poll answer => if node.runReturned then none else some (sessionPollOnce node answer)
  | node, .advance index answer =>
    match node.threads[index]? with
    | none => none
    | some thread =>
      if consistent node answer then
        (WorkbenchSession.step thread answer).map fun (thread', effect) =>
          ({ node with
              threads := node.threads.set index thread'
              active := activeAfter node.active thread.sessionId effect },
            .effect index thread.sessionId effect)
      else none
  | node, .stop => some ({ node with stopRequested := true }, .quiet)
  | node, .runReturns =>
    if node.stopRequested then some ({ node with runReturned := true }, .quiet) else none

variable {node node' : Node} {action : Action} {event : Event} {id : String} {index : Nat}
  {answer : Answer} {thread thread' : Thread} {effect : Effect}

/-- An action that leaves the threads and `_active_sessions` alone. -/
def Keeps (node node' : Node) (event : Event) : Prop :=
  node'.threads = node.threads ∧ node'.active = node.active ∧
    (event = .quiet ∨ ∃ id, event = .ignored id)

/-- A poll that spawns a thread for a session the node does not list. -/
def Spawns (id : String) (node node' : Node) (event : Event) : Prop :=
  id ∉ node.active ∧ node'.threads = node.threads ++ [spawn id] ∧ node'.active = node.active ∧
    event = .spawned node.threads.length id

/-- One step of one session thread. -/
def Advances (index : Nat) (answer : Answer) (node node' : Node) (event : Event) : Prop :=
  ∃ thread thread' effect, node.threads[index]? = some thread ∧
    WorkbenchSession.step thread answer = some (thread', effect) ∧
    node'.threads = node.threads.set index thread' ∧
    node'.active = activeAfter node.active thread.sessionId effect ∧
    event = .effect index thread.sessionId effect

/-- Everything one action can do to the sessions. -/
theorem step_cases (stepped : step node action = some (node', event)) :
    Keeps node node' event ∨ (∃ id, action = .poll (.session id) ∧ Spawns id node node' event) ∨
      ∃ index answer, action = .advance index answer ∧ Advances index answer node node' event := by
  cases action with
  | poll answer =>
    simp only [step, Option.ite_none_left_eq_some, Option.some.injEq] at stepped
    obtain ⟨_, stepped⟩ := stepped
    cases answer with
    | session id =>
      simp only [sessionPollOnce] at stepped
      split at stepped
      next listed =>
        cases stepped
        exact .inl ⟨rfl, rfl, .inr ⟨id, rfl⟩⟩
      next fresh =>
        cases stepped
        exact .inr (.inl ⟨id, rfl, fresh, rfl, rfl, rfl⟩)
    | failed | malformed | noSession =>
      cases stepped
      exact .inl ⟨rfl, rfl, .inl rfl⟩
  | advance index answer =>
    simp only [step] at stepped
    split at stepped
    next => cases stepped
    next thread found =>
      simp only [Option.ite_none_right_eq_some, Option.map_eq_some_iff, Prod.exists, Prod.mk.injEq]
        at stepped
      obtain ⟨_, thread', effect, moved, rfl, rfl⟩ := stepped
      exact .inr (.inr ⟨index, answer, rfl, thread, thread', effect, found, moved, rfl, rfl, rfl⟩)
  | stop =>
    cases stepped
    exact .inl ⟨rfl, rfl, .inl rfl⟩
  | runReturns =>
    simp only [step, Option.ite_none_right_eq_some, Option.some.injEq, Prod.mk.injEq] at stepped
    obtain ⟨_, rfl, rfl⟩ := stepped
    exact .inl ⟨rfl, rfl, .inl rfl⟩

/-- A thread that has not returned. -/
def live (id : String) (thread : Thread) : Bool := thread.sessionId = id && thread.pc != .returned

/-- The number of `_run_session_container` threads alive for a session. -/
def Node.liveCount (node : Node) (id : String) : Nat := node.threads.countP (live id)

/-- No session has two live threads. -/
def OneLive (node : Node) : Prop := ∀ id, node.liveCount id ≤ 1

/-- A response names a session with a live thread only while `_active_sessions`
lists it: not during start-up, self-healing or the report of a failed start. -/
def AnsweredInTime (node : Node) : Action → Prop
  | .poll (.session id) => id ∈ node.active ∨ node.liveCount id = 0
  | _ => True

/-- The session of each thread. -/
def Node.sessions (node : Node) : List String := node.threads.map Thread.sessionId

/-- A response names a session that already had a thread only while
`_active_sessions` lists it. -/
def AssignedOnce (node : Node) : Action → Prop
  | .poll (.session id) => id ∈ node.active ∨ id ∉ node.sessions
  | _ => True

instance : Decidable (AnsweredInTime node action) :=
  match action with
  | .poll (.session _) => inferInstanceAs (Decidable (_ ∨ _))
  | .poll .failed | .poll .malformed | .poll .noSession | .advance .. | .stop | .runReturns => .isTrue trivial

instance : Decidable (AssignedOnce node action) :=
  match action with
  | .poll (.session _) => inferInstanceAs (Decidable (_ ∨ _))
  | .poll .failed | .poll .malformed | .poll .noSession | .advance .. | .stop | .runReturns => .isTrue trivial

/-- The thread at `index` was handed a container for the session. -/
def StartedBy (events : List Event) (id : String) (index : Nat) : Prop :=
  ∃ handle, .effect index id (.started handle) ∈ events

theorem live_of_step (stepped : WorkbenchSession.step thread answer = some (thread', effect)) :
    live thread.sessionId thread := by
  have running : thread.pc ≠ .returned := by
    intro done
    obtain ⟨id, executor, monitored, pc⟩ := thread
    cases done
    cases answer <;> cases stepped
  simp [live, running]

/-- A step of a thread never makes a thread live. -/
theorem Advances.liveCount_le (advances : Advances index answer node node' event) (id : String) :
    node'.liveCount id ≤ node.liveCount id := by
  obtain ⟨thread, thread', effect, found, moved, threads, _, _⟩ := advances
  obtain ⟨bound, here⟩ := List.getElem?_eq_some_iff.mp found
  rw [Node.liveCount, Node.liveCount, threads, List.countP_set bound, here]
  by_cases same : thread.sessionId = id
  · subst same
    have was : live thread.sessionId thread := live_of_step moved
    have positive : 0 < node.threads.countP (live thread.sessionId) :=
      List.countP_pos_iff.mpr ⟨thread, List.mem_of_getElem? found, was⟩
    rw [if_pos was]
    split <;> omega
  · have other : live id thread' = false := by
      simp [live, step_sessionId moved, same]
    rw [other]
    simp only [Bool.false_eq_true, if_false]
    omega

theorem Spawns.liveCount (spawns : Spawns id node node' event) (other : String) :
    node'.liveCount other = node.liveCount other + if id = other then 1 else 0 := by
  rw [Node.liveCount, Node.liveCount, spawns.2.1, List.countP_append, List.countP_singleton]
  by_cases same : id = other <;> simp [live, spawn, same]

theorem one_live_step (one : OneLive node) (inTime : AnsweredInTime node action)
    (stepped : step node action = some (node', event)) : OneLive node' := by
  intro other
  rcases step_cases stepped with ⟨threads, _, _⟩ | ⟨id, rfl, spawns⟩ | ⟨index, answer, rfl, advances⟩
  · rw [Node.liveCount, threads]
    exact one other
  · rw [spawns.liveCount]
    have idle : node.liveCount id = 0 := inTime.resolve_left spawns.1
    by_cases same : id = other
    · subst same
      simp [idle]
    · simpa [same] using one other
  · exact (advances.liveCount_le other).trans (one other)

/-- A response that comes too early spawns a second live thread. -/
theorem late_entry_doubles (late : ¬ AnsweredInTime node action)
    (stepped : step node action = some (node', event)) : ¬ OneLive node' := by
  intro one
  cases action with
  | poll answer =>
    cases answer with
    | session id =>
      simp only [AnsweredInTime, not_or] at late
      rcases step_cases stepped with ⟨threads, _, _⟩ | ⟨_, same, spawns⟩ | ⟨_, _, same, _⟩
      · simp only [step, sessionPollOnce, if_neg late.1, Option.ite_none_left_eq_some,
          Option.some.injEq, Prod.mk.injEq] at stepped
        obtain ⟨_, rfl, _⟩ := stepped
        simp at threads
      · cases same
        have bound := one id
        rw [spawns.liveCount, if_pos rfl] at bound
        omega
      · cases same
    | _ => exact late trivial
  | _ => exact late trivial

/-- A step of a thread keeps its session. -/
theorem Advances.sessions (advances : Advances index answer node node' event) :
    node'.sessions = node.sessions := by
  obtain ⟨thread, thread', effect, found, moved, threads, _, _⟩ := advances
  obtain ⟨bound, here⟩ := List.getElem?_eq_some_iff.mp found
  rw [Node.sessions, Node.sessions, threads, List.map_set, step_sessionId moved, ← here,
    ← List.getElem_map Thread.sessionId (h := by simpa using bound), List.set_getElem_self]

/-- The sessions of a node on which every session has been assigned once, and
the threads behind the effects shown so far. -/
structure OnceInv (node : Node) (events : List Event) : Prop where
  distinct : node.sessions.Nodup
  named : ∀ index id effect, .effect index id effect ∈ events → node.sessions[index]? = some id

theorem once_step {events : List Event} (inv : OnceInv node events)
    (once : AssignedOnce node action) (stepped : step node action = some (node', event)) :
    OnceInv node' (events ++ [event]) := by
  rcases step_cases stepped with ⟨threads, _, shown⟩ | ⟨id, rfl, spawns⟩ | ⟨index, answer, rfl, advances⟩
  · have same : node'.sessions = node.sessions := by rw [Node.sessions, threads, Node.sessions]
    refine ⟨same ▸ inv.distinct, fun index id effect member => ?_⟩
    rcases List.mem_append.mp member with old | new
    · exact same ▸ inv.named index id effect old
    · rcases shown with rfl | ⟨_, rfl⟩ <;> simp at new
  · obtain ⟨fresh, threads, _, rfl⟩ := spawns
    have added : node'.sessions = node.sessions ++ [id] := by
      simp [Node.sessions, threads, spawn]
    have unseen : id ∉ node.sessions := once.resolve_left fresh
    constructor
    · rw [added, List.nodup_append]
      refine ⟨inv.distinct, by simp, fun old member new single => ?_⟩
      rintro rfl
      exact unseen (List.mem_singleton.mp single ▸ member)
    · intro index other effect member
      rcases List.mem_append.mp member with old | new
      · have here := inv.named index other effect old
        obtain ⟨bound, _⟩ := List.getElem?_eq_some_iff.mp here
        rw [added, List.getElem?_append_left bound, here]
      · simp at new
  · have same := advances.sessions
    obtain ⟨thread, _, effect, found, _, _, _, rfl⟩ := advances
    refine ⟨same ▸ inv.distinct, fun other id shown member => ?_⟩
    rcases List.mem_append.mp member with old | new
    · exact same ▸ inv.named other id shown old
    · cases List.mem_singleton.mp new
      rw [same, Node.sessions, List.getElem?_map, found, Option.map_some]

/-- One thread starts the containers of a session that is assigned once. -/
theorem OnceInv.started {events : List Event} (inv : OnceInv node events) {first second : Nat}
    (left : StartedBy events id first) (right : StartedBy events id second) : first = second := by
  obtain ⟨_, left⟩ := left
  obtain ⟨_, right⟩ := right
  have here := inv.named first id _ left
  have there := inv.named second id _ right
  obtain ⟨bound, _⟩ := List.getElem?_eq_some_iff.mp here
  exact (List.getElem?_inj bound inv.distinct).mp (here.trans there.symm)

/-- No session ever has two live threads exactly if every response that names a
session comes while `_active_sessions` lists it or while it has no live thread.
If moreover no session is assigned again, the containers of a session are all
started by one thread. -/
theorem one_live_thread_iff (actions : List Action) :
    (Runs.Always step OneLive {} actions ↔ Runs.Meets step AnsweredInTime {} actions) ∧
      (Runs.Meets step AssignedOnce {} actions → ∀ node events,
        Runs.run step {} actions = some (node, events) → ∀ id first second,
          StartedBy events id first → StartedBy events id second → first = second) := by
  constructor
  · refine Runs.always_iff_meets (fun id => ?_) (fun one inTime stepped => one_live_step one inTime stepped)
      (fun _ late stepped => late_entry_doubles late stepped)
    exact Nat.zero_le 1
  · intro once node events ran id first second left right
    have base : OnceInv {} [] := ⟨List.nodup_nil, fun _ _ _ member => by cases member⟩
    have inv := Runs.run_invariant_of_meets (I := fun node _ events => OnceInv node events) base
      (fun inv once stepped => once_step inv once stepped) once ran
    exact inv.started left right

/-- The server names a session again when it is ready. -/
def pulledWhenReady : List Action :=
  [.poll (.session "s1"), .advance 0 (.created .docker),
    .advance 0 (.handle ⟨40001, "a", some "c1", none, "docker"⟩), .advance 0 (.probe none),
    .advance 0 .returned, .poll (.session "s1")]

theorem one_live_thread_iff_ready :
    Runs.Always step OneLive {} pulledWhenReady ∧
      ∃ (node : Node) (events : List Event), Runs.run step {} pulledWhenReady = some (node, events) ∧
        ∀ id first second, StartedBy events id first → StartedBy events id second → first = second :=
  ⟨(one_live_thread_iff pulledWhenReady).1.mpr (by decide), _, _, rfl,
    (one_live_thread_iff pulledWhenReady).2 (by decide) _ _ rfl⟩

/-- The server names a session again while its first container starts. -/
def pulledTwice : List Action :=
  [.poll (.session "s1"), .advance 0 (.created .docker), .poll (.session "s1"),
    .advance 1 (.created .docker), .advance 0 (.handle ⟨40001, "a", some "c1", none, "docker"⟩),
    .advance 1 (.handle ⟨40002, "b", some "c2", none, "docker"⟩)]

/-- Both threads are alive and both have started a container for the session. -/
theorem pulled_twice_starts_twice :
    ∃ (node : Node) (events : List Event), Runs.run step {} pulledTwice = some (node, events) ∧
      node.liveCount "s1" = 2 ∧ StartedBy events "s1" 0 ∧ StartedBy events "s1" 1 :=
  ⟨_, _, rfl, by decide, ⟨_, List.mem_of_getElem? (i := 4) rfl⟩, ⟨_, List.mem_of_getElem? (i := 5) rfl⟩⟩

end ComputeCloudNode.NodeSessions
