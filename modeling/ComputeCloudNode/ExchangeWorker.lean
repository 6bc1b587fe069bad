import ComputeCloudNode.Lib.Runs
import ComputeCloudNode.Values

/-! A shard worker between its node and the server's exchange: it polls until its
input is there or the deadline has passed, computes its output and posts it, in at
most three attempts. `PipelineShardWorker` and `DataShardWorker` differ in what
they read, compute and say. One move is one request with its answer, or the end of
the polling; the pauses between requests are left out. -/
namespace ComputeCloudNode.ExchangeWorker

/-- How a request ends: `get` or `post` raises, or there is a response, whose body may
be no JSON. -/
inductive Answer (F : Type)
  | exception (text : String)
  | response (status : Nat) (json : Except String (Value F))

/-- What the poll makes of a response with status 200. -/
inductive Reading (In : Type)
  | notReady
  | input (input : In)
  | raised (text : String)

/-- A worker that has read its payload. Computing may call the node's executor. -/
structure Protocol (F In Out Call : Type) where
  read : Value F → Reading In
  compute : In → List Call × Except String Out
  body : Out → Value F
  /-- What raises when a failed poll is logged. -/
  logPollFailed : Option String
  timedOut : Option Nat → String
  postFailed : String → String
  postReturned : Option Nat → String

/-- Where `execute_shard` stands. -/
inductive Pc (Out : Type)
  | polling (lastStatus : Option Nat)
  /-- Attempts left, and how the earlier ones ended. -/
  | posting (output : Out) (attempts : Nat) (lastExc : Option String) (lastStatus : Option Nat)
  | returned (output : Out)
  | raised (text : String)

inductive Move (F : Type)
  /-- `time.monotonic() < deadline` is false. -/
  | deadline
  | get (answer : Answer F)
  | post (answer : Answer F)

/-- What a move shows to the outside: calls of the executor, or the body of a post. -/
inductive Event (F Call : Type)
  | quiet
  | called (calls : List Call)
  | posted (body : Value F)

variable {F In Out Call : Type} (protocol : Protocol F In Out Call)

/-- The end of the polling, with the computation. -/
def receive (input : In) : Pc Out × Event F Call :=
  let (calls, computed) := protocol.compute input
  match computed with
  | .ok output => (.posting output 3 none none, .called calls)
  | .error text => (.raised text, .called calls)

/-- One round of `_poll_for_input`. -/
def poll (lastStatus : Option Nat) : Answer F → Pc Out × Event F Call
  | .exception _ =>
    match protocol.logPollFailed with
    | none => (.polling lastStatus, .quiet)
    | some text => (.raised text, .quiet)
  | .response status json =>
    if status = 200 then
      match json with
      | .error text => (.raised text, .quiet)
      | .ok data =>
        match protocol.read data with
        | .notReady => (.polling (some 200), .quiet)
        | .raised text => (.raised text, .quiet)
        | .input input => receive protocol input
    else (.polling (some status), .quiet)

/-- Status 200, 201 or 204. -/
def accepted (status : Nat) : Bool := status = 200 || status = 201 || status = 204

/-- The post was answered with success. -/
def succeeded : Answer F → Bool
  | .exception _ => false
  | .response status _ => accepted status

/-- The end of an attempt that did not return: another one, or the exception. -/
def retry (output : Out) (attempts : Nat) (lastExc : Option String) (lastStatus : Option Nat) : Pc Out :=
  if attempts = 0 then
    .raised (match lastExc with
      | some text => protocol.postFailed text
      | none => protocol.postReturned lastStatus)
  else .posting output attempts lastExc lastStatus

/-- One attempt of `_post_output`. -/
def attempt (output : Out) (attempts : Nat) (lastExc : Option String) (lastStatus : Option Nat) : Answer F → Pc Out
  | .exception text => retry protocol output attempts (some text) lastStatus
  | .response status _ =>
    if accepted status then .returned output else retry protocol output attempts lastExc (some status)

/-- One move of `execute_shard`. -/
def step : Runs.Step (Pc Out) (Move F) (Event F Call)
  | .polling lastStatus, .deadline => some (.raised (protocol.timedOut lastStatus), .quiet)
  | .polling lastStatus, .get answer => some (poll protocol lastStatus answer)
  | .posting output (attempts + 1) lastExc lastStatus, .post answer =>
    some (attempt protocol output attempts lastExc lastStatus answer, .posted (protocol.body output))
  | _, _ => none

/-! ### What a move can do -/

variable {protocol} {pc next : Pc Out} {move : Move F} {event : Event F Call}

variable (protocol) in
/-- Everything a move can do. -/
inductive Transition : Pc Out → Move F → Pc Out → Event F Call → Prop
  | waits {lastStatus lastStatus' : Option Nat} {answer : Answer F} :
    Transition (.polling lastStatus) (.get answer) (.polling lastStatus') .quiet
  | givesUp {lastStatus : Option Nat} {move : Move F} {text : String} :
    Transition (.polling lastStatus) move (.raised text) .quiet
  | receives {lastStatus : Option Nat} {data : Value F} {input : In} (read : protocol.read data = .input input) :
    Transition (.polling lastStatus) (.get (.response 200 (.ok data))) (receive protocol input).1
      (receive protocol input).2
  | retries {output : Out} {attempts : Nat} {lastExc lastExc' : Option String} {lastStatus lastStatus' : Option Nat}
      {answer : Answer F} (left : attempts ≠ 0) (failed : succeeded answer = false) :
    Transition (.posting output (attempts + 1) lastExc lastStatus) (.post answer)
      (.posting output attempts lastExc' lastStatus') (.posted (protocol.body output))
  | fails {output : Out} {lastExc : Option String} {lastStatus : Option Nat} {answer : Answer F} {text : String}
      (failed : succeeded answer = false) :
    Transition (.posting output 1 lastExc lastStatus) (.post answer) (.raised text) (.posted (protocol.body output))
  | returns {output : Out} {attempts : Nat} {lastExc : Option String} {lastStatus : Option Nat} {answer : Answer F}
      (success : succeeded answer) :
    Transition (.posting output (attempts + 1) lastExc lastStatus) (.post answer) (.returned output)
      (.posted (protocol.body output))

theorem poll_transition (lastStatus : Option Nat) (answer : Answer F) :
    Transition protocol (.polling lastStatus) (.get answer) (poll protocol lastStatus answer).1
      (poll protocol lastStatus answer).2 := by
  cases answer with
  | exception text =>
    cases logged : protocol.logPollFailed with
    | none =>
      simp only [poll, logged]
      exact .waits
    | some text =>
      simp only [poll, logged]
      exact .givesUp
  | response status json =>
    by_cases ok : status = 200
    · subst ok
      cases json with
      | error text => exact .givesUp
      | ok data =>
        cases read : protocol.read data with
        | notReady =>
          simp only [poll, read, if_true]
          exact .waits
        | raised text =>
          simp only [poll, read, if_true]
          exact .givesUp
        | input input =>
          simp only [poll, read, if_true]
          exact .receives read
    · simp only [poll, if_neg ok]
      exact .waits

theorem retry_transition {output : Out} {attempts : Nat} {lastExc lastExc' : Option String}
    {lastStatus lastStatus' : Option Nat} {answer : Answer F} (failed : succeeded answer = false) :
    Transition protocol (.posting output (attempts + 1) lastExc lastStatus) (.post answer)
      (retry protocol output attempts lastExc' lastStatus') (.posted (protocol.body output)) := by
  unfold retry
  split
  next none =>
    subst none
    exact .fails failed
  next left => exact .retries left failed

theorem step_transition (stepped : step protocol pc move = some (next, event)) :
    Transition protocol pc move next event := by
  cases pc with
  | polling lastStatus =>
    cases move with
    | deadline =>
      cases stepped
      exact .givesUp
    | get answer =>
      have polled : poll protocol lastStatus answer = (next, event) := Option.some.inj stepped
      have transition : Transition protocol (.polling lastStatus) (.get answer) _ _ := poll_transition lastStatus answer
      rw [polled] at transition
      exact transition
    | post answer => cases stepped
  | posting output attempts lastExc lastStatus =>
    cases attempts with
    | zero => cases stepped
    | succ attempts =>
      cases move with
      | deadline => cases stepped
      | get answer => cases stepped
      | post answer =>
        cases stepped
        cases answer with
        | exception text => exact retry_transition rfl
        | response status json =>
          by_cases success : accepted status
          · simp only [attempt, if_pos success]
            exact .returns success
          · simp only [attempt, if_neg success]
            exact retry_transition (Bool.eq_false_iff.mpr success)
  | returned output => cases stepped
  | raised text => cases stepped

/-- The output at hand. -/
def Pc.output : Pc Out → Option Out
  | .posting output _ _ _ => some output
  | .returned output => some output
  | _ => none

theorem receive_ok {input : In} {output : Out} (ran : (protocol.compute input).2 = .ok output) :
    receive protocol input = (.posting output 3 none none, .called (protocol.compute input).1) := by
  simp only [receive, ran]

theorem receive_error {input : In} {text : String} (ran : (protocol.compute input).2 = .error text) :
    receive protocol input = (.raised text, .called (protocol.compute input).1) := by
  simp only [receive, ran]

theorem receive_output {input : In} :
    ∀ output ∈ (receive protocol input).1.output, (protocol.compute input).2 = .ok output := by
  intro output held
  cases ran : (protocol.compute input).2 with
  | error text =>
    rw [receive_error ran] at held
    cases held
  | ok computed =>
    rw [receive_ok ran] at held
    cases held
    rfl

/-- The output at hand stays what was computed of the input. -/
theorem step_output (stepped : step protocol pc move = some (next, event)) :
    ∀ output ∈ next.output, output ∈ pc.output ∨ ∃ data input, move = .get (.response 200 (.ok data)) ∧
      protocol.read data = .input input ∧ (protocol.compute input).2 = .ok output := by
  intro output held
  cases step_transition stepped with
  | waits => cases held
  | givesUp => cases held
  | @receives _ data input read => exact .inr ⟨data, input, rfl, read, receive_output output held⟩
  | retries left failed => exact .inl held
  | fails failed => cases held
  | returns success => exact .inl held

/-! ### What a run can do -/

/-- The calls of the node's executor. -/
def calls (events : List (Event F Call)) : List Call :=
  events.flatMap fun
    | .called calls => calls
    | _ => []

/-- The bodies posted. -/
def posts (events : List (Event F Call)) : List (Value F) :=
  events.filterMap fun
    | .posted body => some body
    | _ => none

@[simp] theorem calls_snoc (events : List (Event F Call)) (event : Event F Call) :
    calls (events ++ [event]) = calls events ++ calls [event] := List.flatMap_append

@[simp] theorem posts_snoc (events : List (Event F Call)) (event : Event F Call) :
    posts (events ++ [event]) = posts events ++ posts [event] := List.filterMap_append

theorem calls_quiet (events : List (Event F Call)) : calls (events ++ [.quiet]) = calls events := by
  rw [calls_snoc]
  exact List.append_nil _

theorem posts_quiet (events : List (Event F Call)) : posts (events ++ [.quiet]) = posts events := by
  rw [posts_snoc]
  exact List.append_nil _

variable {moves : List (Move F)} {events : List (Event F Call)}

/-- No post was answered with success. -/
def Unaccepted (moves : List (Move F)) : Prop := ∀ answer, .post answer ∈ moves → succeeded answer = false

theorem Unaccepted.snoc (unaccepted : Unaccepted moves) (kept : ∀ answer, move = .post answer → succeeded answer = false) :
    Unaccepted (moves ++ [move]) := by
  intro answer member
  rcases List.mem_append.mp member with old | new
  · exact unaccepted answer old
  · exact kept answer (List.mem_singleton.mp new).symm

variable (protocol moves events) in
/-- The input came with one of the answers, and the executor was called as the
computation on it calls it. -/
structure Computed (input : In) : Prop where
  got : ∃ data, .get (.response 200 (.ok data)) ∈ moves ∧ protocol.read data = .input input
  called : calls events = (protocol.compute input).1

variable (protocol moves events) in
/-- How far a run has come, from what it was answered and what it did. -/
inductive Progress : Pc Out → Prop
  | waiting {pc : Pc Out} (early : (∃ lastStatus, pc = .polling lastStatus) ∨ ∃ text, pc = .raised text)
      (noCalls : calls events = []) (noPosts : posts events = []) (unaccepted : Unaccepted moves) : Progress pc
  | refused {input : In} {text : String} (computed : Computed protocol moves events input)
      (ran : (protocol.compute input).2 = .error text) (noPosts : posts events = []) (unaccepted : Unaccepted moves) :
    Progress (.raised text)
  | posting {input : In} {output : Out} {pc : Pc Out} {sent : Nat} (computed : Computed protocol moves events input)
      (ran : (protocol.compute input).2 = .ok output)
      (late : (∃ attempts lastExc lastStatus, pc = .posting output attempts lastExc lastStatus ∧ attempts + sent = 3) ∨
        (∃ text, pc = .raised text) ∧ sent = 3)
      (posted : posts events = List.replicate sent (protocol.body output)) (unaccepted : Unaccepted moves) : Progress pc
  | returned {input : In} {output : Out} {sent : Nat} (computed : Computed protocol moves events input)
      (ran : (protocol.compute input).2 = .ok output) (some_ : 1 ≤ sent) (few : sent ≤ 3)
      (posted : posts events = List.replicate sent (protocol.body output))
      (success : ∃ answer, .post answer ∈ moves ∧ succeeded answer) : Progress (.returned output)

theorem Computed.snoc {input : In} (computed : Computed protocol moves events input) (quiet : calls [event] = []) :
    Computed protocol (moves ++ [move]) (events ++ [event]) input where
  got := by
    obtain ⟨data, got, read⟩ := computed.got
    exact ⟨data, List.mem_append_left _ got, read⟩
  called := by rw [calls_snoc, quiet, List.append_nil, computed.called]

theorem Progress.of_polling {lastStatus : Option Nat} (progress : Progress protocol moves events (.polling lastStatus)) :
    calls events = [] ∧ posts events = [] ∧ Unaccepted moves := by
  cases progress with
  | waiting early noCalls noPosts unaccepted => exact ⟨noCalls, noPosts, unaccepted⟩
  | posting computed ran late posted unaccepted =>
    obtain ⟨_, _, _, impossible, _⟩ | ⟨⟨_, impossible⟩, _⟩ := late <;> cases impossible

theorem Progress.of_posting {output : Out} {attempts : Nat} {lastExc : Option String} {lastStatus : Option Nat}
    (progress : Progress protocol moves events (.posting output attempts lastExc lastStatus)) :
    ∃ input sent, Computed protocol moves events input ∧ (protocol.compute input).2 = .ok output ∧
      attempts + sent = 3 ∧ posts events = List.replicate sent (protocol.body output) ∧ Unaccepted moves := by
  cases progress with
  | waiting early noCalls noPosts unaccepted =>
    obtain ⟨_, impossible⟩ | ⟨_, impossible⟩ := early <;> cases impossible
  | @posting input output' _ sent computed ran late posted unaccepted =>
    obtain ⟨attempts', _, _, same, counted⟩ | ⟨⟨_, impossible⟩, _⟩ := late
    · cases same
      exact ⟨input, sent, computed, ran, counted, posted, unaccepted⟩
    · cases impossible

theorem Progress.of_returned {output : Out} (progress : Progress protocol moves events (.returned output)) :
    ∃ input sent, Computed protocol moves events input ∧ (protocol.compute input).2 = .ok output ∧
      posts events = List.replicate (sent + 1) (protocol.body output) ∧
      ∃ answer, .post answer ∈ moves ∧ succeeded answer := by
  cases progress with
  | waiting early noCalls noPosts unaccepted =>
    obtain ⟨_, impossible⟩ | ⟨_, impossible⟩ := early <;> cases impossible
  | posting computed ran late posted unaccepted =>
    obtain ⟨_, _, _, impossible, _⟩ | ⟨⟨_, impossible⟩, _⟩ := late <;> cases impossible
  | @returned input _ sent computed ran some_ few posted success =>
    refine ⟨input, sent - 1, computed, ran, ?_, success⟩
    rw [posted, Nat.sub_add_cancel some_]

theorem Progress.of_raised {text : String} (progress : Progress protocol moves events (.raised text)) :
    Unaccepted moves := by
  cases progress with
  | waiting early noCalls noPosts unaccepted => exact unaccepted
  | refused computed ran noPosts unaccepted => exact unaccepted
  | posting computed ran late posted unaccepted => exact unaccepted

theorem posts_posted {body : Value F} {sent : Nat} (posted : posts events = List.replicate sent body) :
    posts (events ++ [.posted body]) = List.replicate (sent + 1) body := by
  rw [posts_snoc, posted, List.replicate_succ']
  rfl

/-- A move continues the progress. -/
theorem Progress.step (progress : Progress protocol moves events pc)
    (stepped : ExchangeWorker.step protocol pc move = some (next, event)) :
    Progress protocol (moves ++ [move]) (events ++ [event]) next := by
  cases step_transition stepped with
  | waits =>
    obtain ⟨noCalls, noPosts, unaccepted⟩ := progress.of_polling
    refine .waiting (.inl ⟨_, rfl⟩) ?_ ?_ (unaccepted.snoc nofun)
    · rw [calls_quiet, noCalls]
    · rw [posts_quiet, noPosts]
  | givesUp =>
    obtain ⟨noCalls, noPosts, unaccepted⟩ := progress.of_polling
    refine .waiting (.inr ⟨_, rfl⟩) ?_ ?_ (unaccepted.snoc fun answer posted => ?_)
    · rw [calls_quiet, noCalls]
    · rw [posts_quiet, noPosts]
    · rw [posted] at stepped
      cases stepped
  | @receives _ data input read =>
    obtain ⟨noCalls, noPosts, unaccepted⟩ := progress.of_polling
    have unaccepted' : Unaccepted (moves ++ [.get (.response 200 (.ok data))]) := unaccepted.snoc nofun
    have got : ∃ data', .get (.response 200 (.ok data')) ∈ moves ++ [.get (.response 200 (.ok data))] ∧
        protocol.read data' = .input input :=
      ⟨data, List.mem_append_right _ List.mem_cons_self, read⟩
    have called : calls (events ++ [.called (protocol.compute input).1]) = (protocol.compute input).1 := by
      rw [calls_snoc, noCalls]
      exact List.append_nil _
    have silent : posts (events ++ [.called (protocol.compute input).1]) = [] := by
      rw [posts_snoc, noPosts]
      rfl
    cases ran : (protocol.compute input).2 with
    | error text =>
      rw [receive_error ran]
      exact .refused ⟨got, called⟩ ran silent unaccepted'
    | ok output =>
      rw [receive_ok ran]
      refine .posting ⟨got, called⟩ ran ?_ (silent.trans List.replicate_zero.symm) unaccepted'
      exact .inl ⟨3, none, none, rfl, rfl⟩
  | retries left failed =>
    obtain ⟨input, sent, computed, ran, counted, posted, unaccepted⟩ := progress.of_posting
    refine .posting (computed.snoc rfl) ran (.inl ⟨_, _, _, rfl, ?_⟩) (posts_posted posted)
      (unaccepted.snoc fun answer same => by cases same; exact failed)
    omega
  | fails failed =>
    obtain ⟨input, sent, computed, ran, counted, posted, unaccepted⟩ := progress.of_posting
    refine .posting (computed.snoc rfl) ran (.inr ⟨⟨_, rfl⟩, ?_⟩) (posts_posted posted)
      (unaccepted.snoc fun answer same => by cases same; exact failed)
    omega
  | @returns output attempts _ _ answer success =>
    obtain ⟨input, sent, computed, ran, counted, posted, unaccepted⟩ := progress.of_posting
    refine .returned (computed.snoc rfl) ran (Nat.succ_pos sent) ?_ (posts_posted posted)
      ⟨answer, List.mem_append_right _ List.mem_cons_self, success⟩
    omega

/-- Every run has come as far as its progress says. -/
theorem run_progress (ran : Runs.run (ExchangeWorker.step protocol) (.polling none) moves = some (pc, events)) :
    Progress protocol moves events pc :=
  Runs.run_invariant (I := fun pc moves events => Progress protocol moves events pc)
    (.waiting (.inl ⟨none, rfl⟩) rfl rfl nofun) (fun progress stepped => progress.step stepped) ran

end ComputeCloudNode.ExchangeWorker
