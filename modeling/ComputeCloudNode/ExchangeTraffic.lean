import ComputeCloudNode.PipelineWorker

/-! The requests of a shard worker, whatever they are answered. Nothing is posted before
the input has come, then the same body is posted until one post succeeds or three have
failed, and the worker returns exactly when one has succeeded. -/
namespace ComputeCloudNode.ExchangeWorker

variable {F In Out Call : Type} (protocol : Protocol F In Out Call)

/-- The input that a move brings. -/
def supplied : Move F → Option In
  | .get (.response status (.ok data)) =>
    if status = 200 then
      match protocol.read data with
      | .input input => some input
      | _ => none
    else none
  | _ => none

/-- The first input that the answers bring. -/
def firstInput (moves : List (Move F)) : Option In := moves.findSome? (supplied protocol)

/-- Nothing was posted. -/
def Silent (moves : List (Move F)) : Prop := ∀ answer, .post answer ∉ moves

variable {protocol} {pc next : Pc Out} {move : Move F} {event : Event F Call} {moves : List (Move F)}
  {events : List (Event F Call)} {output : Out} {answers : List (Answer F)} {answer : Answer F}

theorem firstInput_append {before after : List (Move F)} {input : In}
    (first : firstInput protocol before = some input) : firstInput protocol (before ++ after) = some input := by
  rw [firstInput, List.findSome?_append, ← firstInput, first, Option.some_or]

theorem firstInput_snoc (unsupplied : firstInput protocol moves = none) :
    firstInput protocol (moves ++ [move]) = supplied protocol move := by
  rw [firstInput, List.findSome?_append, ← firstInput, unsupplied, Option.none_or, List.findSome?_singleton]

theorem Silent.snoc (silent : Silent moves) (other : ∀ answer, move ≠ .post answer) : Silent (moves ++ [move]) := by
  intro answer member
  rcases List.mem_append.mp member with old | new
  · exact silent answer old
  · exact other answer (List.mem_singleton.mp new).symm

variable (protocol moves events output answers) in
/-- After the first input its output was posted, and these were the answers. -/
structure Sent : Prop where
  parts : ∃ before early, moves = before ++ answers.map .post ∧
    events = early ++ List.replicate answers.length (.posted (protocol.body output)) ∧
    early.length = before.length ∧ Silent before ∧
    ∃ input, firstInput protocol before = some input ∧ (protocol.compute input).2 = .ok output

theorem Sent.snoc (sent : Sent protocol moves events output answers) (answer : Answer F) :
    Sent protocol (moves ++ [.post answer]) (events ++ [.posted (protocol.body output)]) output (answers ++ [answer]) := by
  obtain ⟨before, early, rfl, rfl, same, silent, first⟩ := sent.parts
  refine ⟨before, early, ?_, ?_, same, silent, first⟩
  · rw [List.map_append, List.append_assoc]
    rfl
  · rw [List.length_append, List.length_singleton, List.replicate_succ', List.append_assoc]

variable (protocol moves events) in
/-- What was requested up to a point of `execute_shard`. -/
inductive Traffic : Pc Out → Prop
  | waiting {lastStatus : Option Nat} (silent : Silent moves) (unsupplied : firstInput protocol moves = none) :
    Traffic (.polling lastStatus)
  | gaveUp {text : String} (silent : Silent moves) : Traffic (.raised text)
  | posting {output : Out} {attempts : Nat} {lastExc : Option String} {lastStatus : Option Nat}
      {answers : List (Answer F)} (sent : Sent protocol moves events output answers)
      (failed : ∀ answer ∈ answers, succeeded answer = false) (left : answers.length + attempts = 3) :
    Traffic (.posting output attempts lastExc lastStatus)
  | failed {text : String} {output : Out} {answers : List (Answer F)} (sent : Sent protocol moves events output answers)
      (failed : ∀ answer ∈ answers, succeeded answer = false) (three : answers.length = 3) : Traffic (.raised text)
  | returned {output : Out} {answers : List (Answer F)} {last : Answer F}
      (sent : Sent protocol moves events output (answers ++ [last]))
      (failed : ∀ answer ∈ answers, succeeded answer = false) (success : succeeded last = true)
      (few : answers.length < 3) : Traffic (.returned output)

theorem failed_snoc (failed : ∀ answer ∈ answers, succeeded answer = false) (last : succeeded answer = false) :
    ∀ other ∈ answers ++ [answer], succeeded other = false := by
  intro other member
  rcases List.mem_append.mp member with old | new
  · exact failed other old
  · rwa [List.mem_singleton.mp new]

/-- The move that brings the input ends the polling. -/
theorem Traffic.receive {lastStatus : Option Nat} {data : Value F} {input : In}
    (traffic : Traffic protocol moves events (.polling lastStatus)) (same : events.length = moves.length)
    (read : protocol.read data = .input input) :
    Traffic protocol (moves ++ [.get (.response 200 (.ok data))])
      (events ++ [(ExchangeWorker.receive protocol input).2]) (ExchangeWorker.receive protocol input).1 := by
  cases traffic with
  | waiting silent unsupplied =>
    have silent' : Silent (moves ++ [.get (.response 200 (.ok data))]) := silent.snoc (by simp)
    have first : firstInput protocol (moves ++ [.get (.response 200 (.ok data))]) = some input := by
      rw [firstInput_snoc unsupplied, supplied, if_pos rfl, read]
    cases ran : (protocol.compute input).2 with
    | error text =>
      rw [receive_error ran]
      exact .gaveUp silent'
    | ok output =>
      rw [receive_ok ran]
      have sent : Sent protocol (moves ++ [.get (.response 200 (.ok data))])
          (events ++ [.called (protocol.compute input).1]) output [] := by
        refine ⟨_, _, (List.append_nil _).symm, (List.append_nil _).symm, ?_, silent', input, first, ran⟩
        rw [List.length_append, List.length_append, same]
        rfl
      exact .posting sent (by simp) rfl

/-- An answer after which the worker polls again brought no input. -/
theorem supplied_of_waits {lastStatus lastStatus' : Option Nat}
    (waits : (poll protocol lastStatus answer).1 = .polling lastStatus') : supplied protocol (.get answer) = none := by
  cases answer with
  | exception text => rfl
  | response status json =>
    cases json with
    | error text => rfl
    | ok data =>
      by_cases ok : status = 200
      · cases read : protocol.read data with
        | notReady | raised text => simp only [supplied, read, if_pos ok]
        | input input =>
          simp only [poll, if_pos ok, read] at waits
          cases ran : (protocol.compute input).2 with
          | error text =>
            rw [receive_error ran] at waits
            cases waits
          | ok output =>
            rw [receive_ok ran] at waits
            cases waits
      · simp only [supplied, if_neg ok]

/-- A move continues the traffic. -/
theorem Traffic.step (traffic : Traffic protocol moves events pc) (same : events.length = moves.length)
    (stepped : ExchangeWorker.step protocol pc move = some (next, event)) :
    Traffic protocol (moves ++ [move]) (events ++ [event]) next := by
  cases step_transition stepped with
  | waits =>
    cases traffic with
    | waiting silent unsupplied =>
      refine .waiting (silent.snoc (by simp)) ?_
      rw [firstInput_snoc unsupplied]
      exact supplied_of_waits (congrArg Prod.fst (Option.some.inj stepped))
  | givesUp =>
    cases traffic with
    | waiting silent unsupplied =>
      refine .gaveUp (silent.snoc ?_)
      rintro answer rfl
      cases stepped
  | receives read => exact traffic.receive same read
  | @retries _ _ _ _ _ _ answer left failed =>
    cases traffic with
    | posting sent earlier counted =>
      refine .posting (sent.snoc answer) (failed_snoc earlier failed) ?_
      rw [List.length_append, List.length_singleton]
      omega
  | @fails _ _ _ answer _ failed =>
    cases traffic with
    | posting sent earlier counted =>
      refine .failed (sent.snoc answer) (failed_snoc earlier failed) ?_
      rw [List.length_append, List.length_singleton]
      omega
  | @returns _ _ _ _ answer success =>
    cases traffic with
    | posting sent earlier counted => exact .returned (sent.snoc answer) earlier success (by omega)

theorem run_traffic (ran : Runs.run (ExchangeWorker.step protocol) (.polling none) moves = some (pc, events)) :
    Traffic protocol moves events pc := by
  have both := Runs.run_invariant
    (I := fun pc moves events => Traffic protocol moves events pc ∧ events.length = moves.length)
    ⟨.waiting (by simp [Silent]) rfl, rfl⟩ ?_ ran
  · exact both.1
  · intro before moves events move after event held stepped
    refine ⟨held.1.step held.2 stepped, ?_⟩
    rw [List.length_append, List.length_append, held.2]
    rfl

/-! ### A post among the moves -/

variable {before after : List (Move F)}

theorem Sent.post (sent : Sent protocol moves events output answers) (split : moves = before ++ .post answer :: after) :
    (∃ input, firstInput protocol before = some input ∧ (protocol.compute input).2 = .ok output) ∧
      events[before.length]? = some (.posted (protocol.body output)) ∧
      ∃ earlier later, answers = earlier ++ answer :: later ∧ after = later.map .post := by
  obtain ⟨polled, early, parts, shown, same, silent, input, first, ran⟩ := sent.parts
  have posts : ∃ sentBefore, before = polled ++ sentBefore ∧ answers.map .post = sentBefore ++ .post answer :: after := by
    rcases List.append_eq_append_iff.mp (split.symm.trans parts) with ⟨rest, longer, inner⟩ | ⟨rest, longer, inner⟩
    · cases rest with
      | nil => exact ⟨[], by rw [longer, List.append_nil, List.append_nil], inner.symm⟩
      | cons move rest =>
        obtain ⟨rfl, _⟩ := List.cons.inj inner
        exact absurd (by simp [longer]) (silent answer)
    · exact ⟨rest, longer, inner⟩
  obtain ⟨sentBefore, rfl, posted⟩ := posts
  obtain ⟨earlier, rest, rfl, rfl, later⟩ := List.map_eq_append_iff.mp posted
  obtain ⟨found, tail, rfl, here, rfl⟩ := List.map_eq_cons_iff.mp later
  cases here
  refine ⟨⟨input, firstInput_append first, ran⟩, ?_, earlier, tail, rfl, rfl⟩
  have place : (polled ++ earlier.map Move.post).length = early.length + earlier.length := by
    rw [List.length_append, List.length_map, same]
  rw [shown, place, List.getElem?_append_right (Nat.le_add_right _ _), Nat.add_sub_cancel_left,
    List.getElem?_replicate, if_pos (by simp)]

/-- A post was sent after the first input, with its output, and none after one that succeeded. -/
theorem Traffic.post (traffic : Traffic protocol moves events pc) (split : moves = before ++ .post answer :: after) :
    (∃ input output, firstInput protocol before = some input ∧ (protocol.compute input).2 = .ok output ∧
      events[before.length]? = some (.posted (protocol.body output))) ∧
    (succeeded answer = true → after = []) := by
  have sent : ∃ output answers, Sent protocol moves events output answers ∧
      ∀ earlier later, answers = earlier ++ answer :: later → succeeded answer = true → later = [] := by
    have silent_ : ¬ Silent moves := fun silent => silent answer (by simp [split])
    cases traffic with
    | waiting silent | gaveUp silent => exact absurd silent silent_
    | @posting output _ _ _ answers sent failed | @failed _ output answers sent failed =>
      refine ⟨output, answers, sent, fun earlier later same success => ?_⟩
      rw [failed answer (by simp [same])] at success
      cases success
    | @returned output answers last sent failed =>
      refine ⟨output, answers ++ [last], sent, fun earlier later same success => ?_⟩
      rcases List.eq_nil_or_concat later with rfl | ⟨later, final, rfl⟩
      · rfl
      · have moved : answers ++ [last] = (earlier ++ answer :: later) ++ [final] := by simpa using same
        obtain ⟨rfl, _⟩ := List.append_inj' moved rfl
        rw [failed answer (by simp)] at success
        cases success
  obtain ⟨output, answers, sent, last⟩ := sent
  obtain ⟨⟨input, first, ran⟩, shown, earlier, later, same, rfl⟩ := sent.post split
  refine ⟨⟨input, output, first, ran, shown⟩, fun success => ?_⟩
  rw [last earlier later same success, List.map_nil]

theorem Traffic.returned_iff (traffic : Traffic protocol moves events pc) :
    (∃ output, pc = .returned output) ↔ ∃ answer, .post answer ∈ moves ∧ succeeded answer = true := by
  have answered : ∀ {output answers}, Sent protocol moves events output answers →
      ∀ answer, .post answer ∈ moves ↔ answer ∈ answers := by
    rintro output answers sent answer
    obtain ⟨polled, early, rfl, _, _, silent, _⟩ := sent.parts
    simp [silent answer]
  cases traffic with
  | waiting silent | gaveUp silent =>
    constructor
    · rintro ⟨output, same⟩
      cases same
    · rintro ⟨answer, member, _⟩
      exact absurd member (silent answer)
  | posting sent failed | failed sent failed =>
    constructor
    · rintro ⟨output, same⟩
      cases same
    · rintro ⟨answer, member, success⟩
      rw [failed answer ((answered sent answer).mp member)] at success
      cases success
  | @returned output answers last sent failed success =>
    exact ⟨fun _ => ⟨last, (answered sent last).mpr (by simp), success⟩, fun _ => ⟨output, rfl⟩⟩

/-- There are at most three posts, and what is returned was posted by each of them. -/
theorem Progress.posts_bound (progress : Progress protocol moves events pc) :
    (posts events).length ≤ 3 ∧ ∀ output, pc = .returned output → ∀ body ∈ posts events, body = protocol.body output := by
  cases progress with
  | waiting early _ noPosts =>
    rw [noPosts]
    exact ⟨Nat.zero_le _, fun _ _ => nofun⟩
  | refused _ _ noPosts =>
    rw [noPosts]
    exact ⟨Nat.zero_le _, fun _ _ => nofun⟩
  | posting computed ran late posted =>
    rw [posted, List.length_replicate]
    refine ⟨?_, fun output same => ?_⟩
    · rcases late with ⟨attempts, _, _, _, counted⟩ | ⟨_, three⟩ <;> omega
    · rcases late with ⟨attempts, _, _, impossible, _⟩ | ⟨⟨text, impossible⟩, _⟩ <;> cases impossible.symm.trans same
  | returned computed ran some_ few posted =>
    rw [posted, List.length_replicate]
    refine ⟨few, fun output same body member => ?_⟩
    cases same
    exact List.eq_of_mem_replicate member

end ComputeCloudNode.ExchangeWorker

namespace ComputeCloudNode.PipelineWorker
open ExchangeWorker PipelineExecutor

variable {F : Type} [PyRuntime F] {hash : List UInt8 → List UInt8} {pollTimeout : String} {modelName : String}
  {startLayer endLayer shardIndex : Int} {payload : Dict F} {task : ShardTask F} {pc : Pc (List Int)}
  {moves : List (Move F)} {events : List (Event F Empty)}

/-- Every post comes after a list of activations was received and carries the layers of the
first one; at most three are sent, none after one that succeeded; and the worker returns
exactly when one has succeeded, with what was posted. -/
theorem worker_obeys_protocol (shard : ShardTaskPayload modelName startLayer endLayer shardIndex payload)
    (read : readTask payload = .ok task)
    (ran : Runs.run (step (worker hash pollTimeout task)) (.polling none) moves = some (pc, events)) :
    (∀ before answer after, moves = before ++ .post answer :: after →
      (∃ activations, firstInput (worker hash pollTimeout task) before = some activations ∧
        firstInput (worker hash pollTimeout task) moves = some activations ∧
        events[before.length]? = some (.posted
          (.dict [("activations", .ofInts (runLayers hash modelName startLayer endLayer activations))]))) ∧
      (succeeded answer = true → ∀ other, .post other ∉ after)) ∧
    (posts events).length ≤ 3 ∧
    ((∃ output, pc = .returned output) ↔ ∃ answer, .post answer ∈ moves ∧ succeeded answer = true) ∧
    ∀ output, pc = .returned output → ∀ body ∈ posts events,
      body = .dict [("activations", .ofInts (result task output).outputActivations)] := by
  obtain ⟨few, posted⟩ := (run_progress ran).posts_bound
  refine ⟨fun before answer after split => ?_, few, (run_traffic ran).returned_iff, posted⟩
  obtain ⟨⟨activations, output, first, computed, shown⟩, last⟩ := (run_traffic ran).post split
  obtain ⟨_, _, rfl⟩ := worker_compute shard read computed
  refine ⟨⟨activations, first, ?_, shown⟩, fun success other => ?_⟩
  · rw [split]
    exact firstInput_append first
  · rw [last success]
    exact List.not_mem_nil

def toySpec : Dict Int := [("model_name", .str "toy"), ("start_layer", .int 0), ("end_layer", .int 1)]

def onlyShard : Dict Int :=
  [("pipeline_run_id", .str "run-1"), ("shard_index", .int 0), ("shard_count", .int 1), ("shard_spec", .dict toySpec)]

/-- An answer without a list, a list, a post that fails and one that succeeds. -/
def postedTwice : List (Move Int) :=
  [.get (.response 200 (.ok (.dict []))), .get (.response 200 (.ok (.dict [("activations", .ofInts [5, -3])]))),
    .post (.exception "timed out"), .post (.response 201 (.ok .null))]

theorem worker_obeys_protocol_posted_twice :
    ∃ pc events, Runs.run (step (worker Sha256.digest "60.0" ⟨.str "run-1", 0, 1, toySpec⟩)) (.polling none) postedTwice =
        some (pc, events) ∧
      (∃ output, pc = .returned output) ∧ (posts events).length ≤ 3 := by
  have moved : (Runs.run (step (worker Sha256.digest "60.0" ⟨.str "run-1", 0, 1, toySpec⟩)) (.polling none)
      postedTwice).isSome := by
    decide +kernel
  obtain ⟨⟨pc, events⟩, ran⟩ := Option.isSome_iff_exists.mp moved
  have shard : ShardTaskPayload "toy" 0 1 0 onlyShard := ⟨rfl, toySpec, rfl, rfl, rfl, rfl⟩
  obtain ⟨_, few, returned, _⟩ := worker_obeys_protocol shard rfl ran
  exact ⟨pc, events, ran, returned.mpr ⟨.response 201 (.ok .null), by simp [postedTwice], rfl⟩, few⟩

end ComputeCloudNode.PipelineWorker
