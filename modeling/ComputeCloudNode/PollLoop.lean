import ComputeCloudNode.Heartbeats

/-! The loop of `run` over HTTP, down to the JSON that the server answers with. Only the
request and the decoding of its answer are guarded: an exception of what is done with the
decoded value leaves `_poll_once` or `_session_poll_once`, and with it the loop.

The other threads change the number of tasks in flight and the active sessions. Left out: log
lines, and what the threads do that are started here. -/
namespace ComputeCloudNode.PollLoop
open Heartbeats

variable {F : Type}

/-- `body.get(key)`. -/
def get (body : Value F) (key : String) : Except String (Option (Value F)) :=
  match body with
  | .dict data => .ok (data.lookup key)
  | v => .error s!"'{v.typeName}' object has no attribute 'get'"

/-- `session_id in self._active_sessions`, whose keys are texts. -/
def isActive (active : List String) : Value F → Except String Bool
  | .str id => .ok (active.contains id)
  | .list _ => .error "unhashable type: 'list'"
  | .dict _ => .error "unhashable type: 'dict'"
  | _ => .ok false

variable [PyRuntime F]

/-- `f"session-{session_id[:8]}"`. -/
def threadName : Value F → Except String String
  | .str id => .ok ("session-" ++ String.ofList (id.toList.take 8))
  | .list items => .ok ("session-" ++ Value.text (.list (items.take 8)))
  | .dict _ => .error "unhashable type: 'slice'"
  | v => .error s!"'{v.typeName}' object is not subscriptable"

/-- `_poll_once_http`: the task that is submitted, if there is one. -/
def pollOnceHttp (answer : HttpAnswer F) : Except String (Option (Value F)) :=
  match answer.json with
  | none => .ok none
  | some data => do
    let hasTask ← get data "has_task"
    return if (hasTask.getD .null).truthy then some data else none

/-- A thread that is started for a session. -/
structure SessionThread (F : Type) where
  name : String
  data : Value F

/-- The end of `_session_poll_once`: no thread is started for a session that is active. -/
def startThread (active : List String) (sessionId data : Value F) : Except String (Option (SessionThread F)) := do
  if ← isActive active sessionId then return none
  return some { name := ← threadName sessionId, data }

/-- `_session_poll_once`: the thread that is started, if there is one. -/
def sessionPollOnce (active : List String) (answer : HttpAnswer F) : Except String (Option (SessionThread F)) :=
  match answer.json with
  | none => .ok none
  | some data => do
    let hasSession ← get data "has_session"
    if (hasSession.getD .null).truthy then
      let sessionId ← get data "session_id"
      startThread active (sessionId.getD (.str "")) data
    else return none

/-! ### The loop -/

/-- Where the main thread stands in `run`. -/
inductive MainPc
  /-- About to test `_stop_event`. -/
  | loopTop
  | polling
  | sessionPolling
  /-- In `_stop_event.wait`. -/
  | waiting
  | left
  /-- An exception has left the loop. -/
  | raised (text : String)
  deriving DecidableEq

structure Node where
  tasksInFlight : Int := 0
  /-- The keys of `_active_sessions`. -/
  active : List String := []
  main : MainPc := .loopTop
  stopRequested : Bool := false
  deriving DecidableEq

inductive Label (F : Type)
  | loopTop
  /-- There are as many tasks as the node may run. -/
  | refused
  | pull (answer : HttpAnswer F)
  | sessionPull (answer : HttpAnswer F)
  | waited
  | stop
  | taskFinished
  | registered (sessionId : String)
  | unregistered (sessionId : String)

/-- What the loop starts. -/
inductive Event (F : Type)
  | quiet
  | submitted (task : Value F)
  | spawned (thread : SessionThread F)

/-- `_poll_once` when it asks for a task. -/
def pull (node : Node) (answer : HttpAnswer F) : Node × Event F :=
  match pollOnceHttp answer with
  | .error text => ({ node with main := .raised text }, .quiet)
  | .ok none => ({ node with main := .sessionPolling }, .quiet)
  | .ok (some task) => ({ node with main := .sessionPolling, tasksInFlight := node.tasksInFlight + 1 }, .submitted task)

def sessionPull (node : Node) (answer : HttpAnswer F) : Node × Event F :=
  match sessionPollOnce node.active answer with
  | .error text => ({ node with main := .raised text }, .quiet)
  | .ok none => ({ node with main := .waiting }, .quiet)
  | .ok (some thread) => ({ node with main := .waiting }, .spawned thread)

/-- One stretch of one thread of the node. -/
def step (maxConcurrentTasks : Int) : Runs.Step Node (Label F) (Event F)
  | node, .loopTop =>
    if node.main = .loopTop then some ({ node with main := if node.stopRequested then .left else .polling }, .quiet)
    else none
  | node, .refused =>
    if node.main = .polling ∧ maxConcurrentTasks ≤ node.tasksInFlight then
      some ({ node with main := .sessionPolling }, .quiet)
    else none
  | node, .pull answer =>
    if node.main = .polling ∧ node.tasksInFlight < maxConcurrentTasks then some (pull node answer) else none
  | node, .sessionPull answer => if node.main = .sessionPolling then some (sessionPull node answer) else none
  | node, .waited => if node.main = .waiting then some ({ node with main := .loopTop }, .quiet) else none
  | node, .stop => some ({ node with stopRequested := true }, .quiet)
  | node, .taskFinished =>
    if 0 < node.tasksInFlight then some ({ node with tasksInFlight := node.tasksInFlight - 1 }, .quiet) else none
  | node, .registered sessionId => some ({ node with active := node.active.insert sessionId }, .quiet)
  | node, .unregistered sessionId => some ({ node with active := node.active.erase sessionId }, .quiet)

/-! ### Which answers are read -/

/-- What comes for `pull` is no JSON, or an object. -/
def PullReadable (answer : HttpAnswer F) : Prop := ∀ body, answer.json = some body → ∃ data, body = .dict data

/-- What comes for `session/pull` is no JSON, or an object, and if it has a session the id of
that is a text, or missing. -/
def SessionReadable (answer : HttpAnswer F) : Prop :=
  ∀ body, answer.json = some body → ∃ data, body = .dict data ∧
    (((data.lookup "has_session").getD .null).truthy = true →
      ∀ sessionId, data.lookup "session_id" = some sessionId → ∃ id, sessionId = .str id)

/-- The call returns. -/
def Returns {α : Type} (result : Except String α) : Prop := ∃ a, result = .ok a

theorem pollOnceHttp_returns_iff (answer : HttpAnswer F) : Returns (pollOnceHttp answer) ↔ PullReadable answer := by
  unfold Returns pollOnceHttp PullReadable
  cases answer.json with
  | none =>
    refine ⟨fun _ body same => ?_, fun _ => ⟨none, rfl⟩⟩
    cases same
  | some body =>
    cases body with
    | dict data =>
      refine ⟨fun _ body same => ?_, fun _ => ⟨_, rfl⟩⟩
      cases same
      exact ⟨data, rfl⟩
    | _ =>
      constructor
      · rintro ⟨task, returned⟩
        cases returned
      · intro readable
        obtain ⟨data, same⟩ := readable _ rfl
        cases same

theorem startThread_returns_iff (active : List String) (sessionId data : Value F) :
    Returns (startThread active sessionId data) ↔ ∃ id, sessionId = .str id := by
  cases sessionId with
  | str id =>
    refine ⟨fun _ => ⟨id, rfl⟩, fun _ => ?_⟩
    change Returns (if active.contains id then .ok none else .ok (some _))
    split
    · exact ⟨_, rfl⟩
    · exact ⟨_, rfl⟩
  | _ =>
    constructor
    · rintro ⟨thread, returned⟩
      cases returned
    · rintro ⟨id, same⟩
      cases same

theorem sessionPollOnce_dict {active : List String} {answer : HttpAnswer F} {data : Dict F}
    (read : answer.json = some (.dict data)) : sessionPollOnce active answer =
      if ((data.lookup "has_session").getD .null).truthy then
        startThread active ((data.lookup "session_id").getD (.str "")) (.dict data)
      else .ok none := by
  unfold sessionPollOnce
  rw [read]
  rfl

theorem sessionPollOnce_returns_iff (active : List String) (answer : HttpAnswer F) :
    Returns (sessionPollOnce active answer) ↔ SessionReadable answer := by
  cases read : answer.json with
  | none =>
    refine ⟨fun _ body same => ?_, fun _ => ⟨none, by rw [sessionPollOnce, read]⟩⟩
    rw [read] at same
    cases same
  | some body =>
    cases body with
    | dict data =>
      rw [sessionPollOnce_dict read]
      by_cases wanted : ((data.lookup "has_session").getD .null).truthy
      · rw [if_pos wanted, startThread_returns_iff]
        constructor
        · rintro ⟨id, same⟩ body read'
          rw [read] at read'
          cases read'
          refine ⟨data, rfl, fun _ sessionId found => ⟨id, ?_⟩⟩
          rwa [found] at same
        · intro readable
          obtain ⟨_, same, texts⟩ := readable _ read
          cases same
          cases found : data.lookup "session_id" with
          | none => exact ⟨"", rfl⟩
          | some sessionId => exact texts wanted sessionId found
      · rw [if_neg wanted]
        refine ⟨fun _ body read' => ?_, fun _ => ⟨none, rfl⟩⟩
        rw [read] at read'
        cases read'
        exact ⟨data, rfl, fun truthy => absurd truthy wanted⟩
    | _ =>
      constructor
      · rintro ⟨thread, returned⟩
        rw [sessionPollOnce, read] at returned
        cases returned
      · intro readable
        obtain ⟨data, same, _⟩ := readable _ read
        cases same

/-! ### Runs -/

variable {maxConcurrentTasks : Int} {node next : Node} {label : Label F} {event : Event F}

/-- The loop is left only after `stop`, and by no exception. -/
def Polls (node : Node) : Prop :=
  match node.main with
  | .raised _ => False
  | .left => node.stopRequested = true
  | _ => True

/-- What the server answers can be read. -/
def Readable (_ : Node) : Label F → Prop
  | .pull answer => PullReadable answer
  | .sessionPull answer => SessionReadable answer
  | _ => True

theorem step_polls (polls : Polls node) (readable : Readable node label)
    (stepped : step maxConcurrentTasks node label = some (next, event)) : Polls next := by
  cases label with
  | loopTop =>
    obtain ⟨_, same⟩ := Option.ite_none_right_eq_some.mp stepped
    cases same
    cases stop : node.stopRequested with
    | true => exact (rfl : true = true)
    | false => trivial
  | refused | waited =>
    obtain ⟨_, same⟩ := Option.ite_none_right_eq_some.mp stepped
    cases same
    trivial
  | taskFinished =>
    obtain ⟨_, same⟩ := Option.ite_none_right_eq_some.mp stepped
    cases same
    exact polls
  | pull answer =>
    obtain ⟨_, same⟩ := Option.ite_none_right_eq_some.mp stepped
    obtain ⟨task, returned⟩ := (pollOnceHttp_returns_iff answer).mpr readable
    rw [pull, returned] at same
    cases task <;> cases same <;> trivial
  | sessionPull answer =>
    obtain ⟨_, same⟩ := Option.ite_none_right_eq_some.mp stepped
    obtain ⟨thread, returned⟩ := (sessionPollOnce_returns_iff node.active answer).mpr readable
    rw [sessionPull, returned] at same
    cases thread <;> cases same <;> trivial
  | stop =>
    cases stepped
    cases at_ : node.main with
    | raised text =>
      rw [Polls, at_] at polls
      exact polls.elim
    | left => rfl
    | _ => trivial
  | registered sessionId | unregistered sessionId =>
    cases stepped
    exact polls

theorem step_raises (unreadable : ¬Readable node label)
    (stepped : step maxConcurrentTasks node label = some (next, event)) : ¬Polls next := by
  cases label with
  | pull answer =>
    obtain ⟨_, same⟩ := Option.ite_none_right_eq_some.mp stepped
    cases result : pollOnceHttp answer with
    | ok task => exact absurd ((pollOnceHttp_returns_iff answer).mp ⟨task, result⟩) unreadable
    | error text =>
      rw [pull, result] at same
      cases same
      exact id
  | sessionPull answer =>
    obtain ⟨_, same⟩ := Option.ite_none_right_eq_some.mp stepped
    cases result : sessionPollOnce node.active answer with
    | ok thread => exact absurd ((sessionPollOnce_returns_iff node.active answer).mp ⟨thread, result⟩) unreadable
    | error text =>
      rw [sessionPull, result] at same
      cases same
      exact id
  | _ => exact absurd trivial unreadable

/-- As long as the loop is not left, the main thread has a next stretch, whatever the server
answers. -/
theorem main_moves (polls : Polls node) (inside : node.main ≠ .left) (answer : HttpAnswer F) :
    ∃ label ∈ [Label.loopTop, .refused, .pull answer, .sessionPull answer, .waited],
      (step maxConcurrentTasks node label).isSome := by
  cases at_ : node.main with
  | loopTop => exact ⟨.loopTop, by simp, by simp [step, at_]⟩
  | polling =>
    by_cases full : maxConcurrentTasks ≤ node.tasksInFlight
    · exact ⟨.refused, by simp, by simp [step, at_, full]⟩
    · exact ⟨.pull answer, by simp, by simp [step, at_, not_le.mp full]⟩
  | sessionPolling => exact ⟨.sessionPull answer, by simp, by simp [step, at_]⟩
  | waiting => exact ⟨.waited, by simp, by simp [step, at_]⟩
  | left => exact absurd at_ inside
  | raised text =>
    rw [Polls, at_] at polls
    exact polls.elim

/-- The two polls return exactly when what the server answers can be read, and the loop goes on
until `stop` in the runs in which that is always so, and in no other. -/
theorem poll_loop_survives_iff (maxConcurrentTasks : Int) (labels : List (Label F)) :
    (∀ answer : HttpAnswer F, Returns (pollOnceHttp answer) ↔ PullReadable answer) ∧
      (∀ (active : List String) (answer : HttpAnswer F), Returns (sessionPollOnce active answer) ↔ SessionReadable answer) ∧
      (Runs.Always (step maxConcurrentTasks) Polls {} labels ↔ Runs.Meets (step maxConcurrentTasks) Readable {} labels) ∧
      ∀ (node : Node) (answer : HttpAnswer F), Polls node → node.main ≠ .left →
        ∃ label ∈ [Label.loopTop, .refused, .pull answer, .sessionPull answer, .waited],
          (step maxConcurrentTasks node label).isSome := by
  refine ⟨pollOnceHttp_returns_iff, sessionPollOnce_returns_iff, ?_, fun node answer polls inside => ?_⟩
  · apply Runs.always_iff_meets
    · exact trivial
    · exact step_polls
    · exact fun _ unreadable stepped => step_raises unreadable stepped
  · exact main_moves polls inside answer

/-- A round without a task and without a session, and the end of the loop. -/
def idleRound : List (Label Int) :=
  [.loopTop, .pull (.response 200 (some (.dict [("has_task", .bool false)]))), .sessionPull .failed, .waited, .stop, .loopTop]

theorem poll_loop_survives_idle :
    Runs.Always (step 4) Polls {} idleRound ∧
      ∃ label ∈ [Label.loopTop, .refused, .pull (.failed : HttpAnswer Int), .sessionPull .failed, .waited],
        (step 4 {} label).isSome := by
  refine ⟨(poll_loop_survives_iff 4 idleRound).2.2.1.mpr ?_,
    (poll_loop_survives_iff 4 idleRound).2.2.2 {} .failed trivial (by decide)⟩
  intro before label after split node events _ next event _
  have member : label ∈ idleRound := split ▸ List.mem_append_right before List.mem_cons_self
  simp only [idleRound, List.mem_cons, List.not_mem_nil, or_false] at member
  rcases member with rfl | rfl | rfl | rfl | rfl | rfl
  · trivial
  · rintro body same
    cases same
    exact ⟨_, rfl⟩
  · rintro body same
    cases same
  · trivial
  · trivial
  · trivial

/-- Both requests are answered by `null`. -/
theorem null_body_ends_loop :
    ¬Returns (pollOnceHttp (.response 200 (some .null) : HttpAnswer Int)) ∧
      ¬Returns (sessionPollOnce [] (.response 200 (some .null) : HttpAnswer Int)) ∧
      ¬Runs.Always (@step Int _ 4) Polls {} [.loopTop, .pull (.response 200 (some .null))] := by
  refine ⟨?_, ?_, fun always => ?_⟩
  · rintro ⟨task, returned⟩
    cases returned
  · rintro ⟨thread, returned⟩
    cases returned
  · exact always _ [] (List.append_nil _).symm _ _ rfl

end ComputeCloudNode.PollLoop
