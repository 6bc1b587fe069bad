import ComputeCloudNode.PipelineWorker

/-! The toy pipeline over an exchange: any number of workers for any of the shards, in
any interleaving. A post may be carried out at any time after it was sent, also
when its sender saw an exception or an error status, more than once or never; one
that was answered with success has been carried out. The parameters of a layer do
not depend on the worker, so all workers of a shard write the same list. -/
namespace ComputeCloudNode.PipelineExchange
open ExchangeWorker PipelineExecutor PipelineWorker Runs

variable {F : Type} [PyRuntime F]

structure System (F : Type) where
  slots : Int → Option (List Int)
  workers : List (ShardTask F × Pc (List Int)) := []
  /-- The writes that were posted. -/
  posted : List (Int × List Int) := []

/-- The exchange before any worker starts. -/
def initial (F : Type) (values : List Int) : System F where
  slots i := if i = 0 then some values else none

/-- How a `get` ends on the way. A filled slot is always answered with its list. -/
inductive GetOutcome (F : Type)
  | exception (text : String)
  | answered (status : Nat) (json : Except String (Value F))

inductive Label (F : Type)
  /-- Another call of `execute_shard`. -/
  | start (payload : Dict F)
  | deadline (worker : Nat)
  | get (worker : Nat) (outcome : GetOutcome F)
  | post (worker : Nat) (answer : Answer F)
  /-- The exchange carries out a post. -/
  | write (index : Nat)

def activationsJson (activations : List Int) : Value F := .dict [("activations", .ofInts activations)]

/-- What the exchange answers a `get`. -/
def answerGet (slot : Option (List Int)) : GetOutcome F → Option (Answer F)
  | .exception text => some (.exception text)
  | .answered status json =>
    match slot with
    | some activations => some (.response 200 (.ok (activationsJson activations)))
    | none => if status = 200 then none else some (.response status json)

namespace System

variable (hash : List UInt8 → List UInt8) (pollTimeout : String) (s : System F)

/-- One move of one worker. -/
def moveWorker (index : Nat) (move : Move F) : Option (System F) := do
  let (task, pc) ← s.workers[index]?
  let (next, _) ← ExchangeWorker.step (worker hash pollTimeout task) pc move
  return { s with workers := s.workers.set index (task, next) }

/-- The write that a worker's `post` asks for. -/
def postedBy (index : Nat) : Option (Int × List Int) := do
  let (task, pc) ← s.workers[index]?
  return (task.shardIndex + 1, ← pc.output)

omit [PyRuntime F] in
/-- Carry out a write. -/
def fill (write : Int × List Int) : System F :=
  { s with slots := fun i => if i = write.1 then some write.2 else s.slots i }

end System

/-- One step of one worker or of the exchange. -/
def step (hash : List UInt8 → List UInt8) (pollTimeout : String) : Step (System F) (Label F) Unit
  | s, .start payload =>
    match readTask payload with
    | .ok task => some ({ s with workers := s.workers ++ [(task, .polling none)] }, ())
    | .error _ => some (s, ())
  | s, .deadline index => do return (← s.moveWorker hash pollTimeout index .deadline, ())
  | s, .get index outcome => do
    let (task, _) ← s.workers[index]?
    let answer ← answerGet (s.slots task.shardIndex) outcome
    return (← s.moveWorker hash pollTimeout index (.get answer), ())
  | s, .post index answer => do
    let write ← s.postedBy index
    let moved ← s.moveWorker hash pollTimeout index (.post answer)
    let sent := { moved with posted := moved.posted ++ [write] }
    return (if succeeded answer then sent.fill write else sent, ())
  | s, .write index => do return (s.fill (← s.posted[index]?), ())

/-! ### The slots -/

section

variable {hash : List UInt8 → List UInt8} {pollTimeout : String} {modelName : String} {values : List Int}
  {bounds : Nat → Nat} {count : Nat} {s next : System F}

variable (hash modelName values bounds count) in
/-- The list that belongs into a slot. -/
def Belongs (slot : Int) (activations : List Int) : Prop :=
  ∃ i : Nat, slot = i ∧ i ≤ count ∧ activations = runLayers hash modelName 0 (bounds i) values

variable (hash modelName values bounds count) in
/-- Everything in the slots, at the workers and on the way belongs where it is. -/
structure Correct (s : System F) : Prop where
  slots : ∀ i activations, s.slots i = some activations → Belongs hash modelName values bounds count i activations
  workers : ∀ entry ∈ s.workers, (∃ payload, ∃ i < count, readTask payload = .ok entry.1 ∧
      ShardTaskPayload modelName (bounds i) (bounds (i + 1)) i payload) ∧
    ∀ output ∈ entry.2.output, Belongs hash modelName values bounds count (entry.1.shardIndex + 1) output
  posted : ∀ write ∈ s.posted, Belongs hash modelName values bounds count write.1 write.2

theorem Correct.fill (correct : Correct hash modelName values bounds count s) {write : Int × List Int}
    (belongs : Belongs hash modelName values bounds count write.1 write.2) :
    Correct hash modelName values bounds count (s.fill write) := by
  refine { correct with slots := fun i activations filled => ?_ }
  by_cases same : i = write.1
  · simp only [System.fill, if_pos same, Option.some.injEq] at filled
    rw [same, ← filled]
    exact belongs
  · simp only [System.fill, if_neg same] at filled
    exact correct.slots i activations filled

theorem readActivations_json (activations : List Int) :
    readActivations (activationsJson activations : Value F) = .input activations := by
  have numbers : (activations.map (Value.int (F := F))).mapM Value.toInt = .ok activations := by
    rw [Fallible.mapM_eq_ok_iff, List.forall₂_map_left_iff, List.forall₂_same]
    exact fun _ _ => rfl
  simp only [readActivations, activationsJson, List.lookup_cons_self, Value.ofInts, numbers]

/-- A worker that is given what is in its slot computes what belongs into the next. -/
theorem Correct.moveWorker {index : Nat} {move : Move F}
    (correct : Correct hash modelName values bounds count s)
    (honest : ∀ task pc data, s.workers[index]? = some (task, pc) → move = .get (.response 200 (.ok data)) →
      ∃ activations, s.slots task.shardIndex = some activations ∧ data = activationsJson activations)
    (moved : s.moveWorker hash pollTimeout index move = some next) :
    Correct hash modelName values bounds count next := by
  simp only [System.moveWorker, bind, Option.bind_eq_some_iff, pure, Option.some.injEq, Prod.exists] at moved
  obtain ⟨task, pc, found, pc', event, stepped, rfl⟩ := moved
  obtain ⟨⟨payload, i, inRange, read, shard⟩, held⟩ := correct.workers _ (List.mem_of_getElem? found)
  refine { correct with workers := fun entry member => ?_ }
  rcases List.mem_or_eq_of_mem_set member with old | rfl
  · exact correct.workers entry old
  · refine ⟨⟨payload, i, inRange, read, shard⟩, fun output new => ?_⟩
    obtain same | ⟨data, input, polled, given, computed⟩ := step_output stepped output new
    · exact held output same
    · obtain ⟨activations, filled, rfl⟩ := honest task pc data found polled
      have received : input = activations := by
        have parsed := (readActivations_json activations).symm.trans given
        exact (Reading.input.inj parsed).symm
      subst received
      obtain ⟨k, slot, _, layers⟩ := correct.slots _ _ filled
      have index : (k : Int) = i := slot.symm.trans (readTask_ok shard read).1
      obtain ⟨natural, ordered, ran⟩ := worker_compute shard read computed
      refine ⟨i + 1, ?_, inRange, ?_⟩
      · rw [(readTask_ok shard read).1, Nat.cast_add, Nat.cast_one]
      · rw [ran, layers, Int.ofNat_inj.mp index, runLayers_append natural ordered]

theorem Correct.postedBy (correct : Correct hash modelName values bounds count s) {index : Nat}
    {write : Int × List Int} (asked : s.postedBy index = some write) :
    Belongs hash modelName values bounds count write.1 write.2 := by
  simp only [System.postedBy, bind, Option.bind_eq_some_iff, pure, Option.some.injEq, Prod.exists] at asked
  obtain ⟨task, pc, found, output, held, rfl⟩ := asked
  exact (correct.workers _ (List.mem_of_getElem? found)).2 output held

omit [PyRuntime F] in
theorem answerGet_ok {slot : Option (List Int)} {outcome : GetOutcome F} {data : Value F}
    (answered : answerGet slot outcome = some (.response 200 (.ok data))) :
    ∃ activations, slot = some activations ∧ data = activationsJson activations := by
  cases outcome with
  | exception text => cases answered
  | answered status json =>
    cases slot with
    | none =>
      by_cases ok : status = 200
      · simp [answerGet, ok] at answered
      · simp [answerGet, ok] at answered
    | some activations =>
      cases answered
      exact ⟨activations, rfl, rfl⟩

/-- One step keeps everything where it belongs. -/
theorem Correct.step {label : Label F} (correct : Correct hash modelName values bounds count s)
    (task : ∀ payload, label = .start payload → ∃ i < count,
      ShardTaskPayload modelName (bounds i) (bounds (i + 1)) i payload)
    (stepped : PipelineExchange.step hash pollTimeout s label = some (next, ())) :
    Correct hash modelName values bounds count next := by
  cases label with
  | start payload =>
    simp only [PipelineExchange.step] at stepped
    cases read : readTask payload with
    | error text =>
      rw [read] at stepped
      cases stepped
      exact correct
    | ok task' =>
      rw [read] at stepped
      cases stepped
      refine { correct with workers := fun entry member => ?_ }
      rcases List.mem_append.mp member with old | new
      · exact correct.workers entry old
      · cases List.mem_singleton.mp new
        obtain ⟨i, inRange, shard⟩ := task payload rfl
        exact ⟨⟨payload, i, inRange, read, shard⟩, nofun⟩
  | deadline index =>
    simp only [PipelineExchange.step, bind, Option.bind_eq_some_iff, pure, Option.some.injEq, Prod.mk.injEq] at stepped
    obtain ⟨moved, ran, rfl, _⟩ := stepped
    exact correct.moveWorker (fun _ _ _ _ impossible => by cases impossible) ran
  | get index outcome =>
    simp only [PipelineExchange.step, bind, Option.bind_eq_some_iff, pure, Option.some.injEq, Prod.mk.injEq,
      Prod.exists] at stepped
    obtain ⟨task, pc, found, answer, answered, moved, ran, rfl, _⟩ := stepped
    refine correct.moveWorker (fun task' pc' data found' polled => ?_) ran
    cases found.symm.trans found'
    cases polled
    exact answerGet_ok answered
  | post index answer =>
    simp only [PipelineExchange.step, bind, Option.bind_eq_some_iff, pure, Option.some.injEq, Prod.mk.injEq] at stepped
    obtain ⟨write, asked, moved, ran, rfl, _⟩ := stepped
    have belongs := correct.postedBy asked
    have sent : Correct hash modelName values bounds count { moved with posted := moved.posted ++ [write] } := by
      have kept := correct.moveWorker (fun _ _ _ _ impossible => by cases impossible) ran
      refine { kept with posted := fun other member => ?_ }
      rcases List.mem_append.mp member with old | new
      · exact kept.posted other old
      · cases List.mem_singleton.mp new
        exact belongs
    split
    · exact sent.fill belongs
    · exact sent
  | write index =>
    simp only [PipelineExchange.step, bind, Option.bind_eq_some_iff, pure, Option.some.injEq, Prod.mk.injEq] at stepped
    obtain ⟨write, found, rfl, _⟩ := stepped
    exact correct.fill (correct.posted write (List.mem_of_getElem? found))

theorem initial_correct (start : bounds 0 = 0) : Correct hash modelName values bounds count (initial F values) where
  slots := by
    intro i activations found
    by_cases first : i = 0
    · simp only [initial, if_pos first, Option.some.injEq] at found
      refine ⟨0, first, Nat.zero_le _, ?_⟩
      rw [start, Nat.cast_zero, runLayers_self, found]
    · simp only [initial, if_neg first] at found
      cases found
  workers := nofun
  posted := nofun

variable (modelName values count) in
/-- In every interleaving each filled slot holds what the layers before it make of the
input, and the output of the last shard is the reference. -/
theorem pipeline_exchange_correct (bounds : Nat → Nat) (start : bounds 0 = 0) {labels : List (Label F)}
    (tasks : ∀ payload, .start payload ∈ labels → ∃ i < count,
      ShardTaskPayload modelName (bounds i) (bounds (i + 1)) i payload)
    {shown : List Unit} (ran : run (PipelineExchange.step hash pollTimeout) (initial F values) labels = some (s, shown)) :
    (∀ i : Nat, ∀ activations, s.slots i = some activations →
      activations = runLayers hash modelName 0 (bounds i) values) ∧
    ∀ output, s.slots count = some output → output = runReference hash modelName (bounds count) values := by
  have correct : Correct hash modelName values bounds count s := by
    refine run_invariant (I := fun state labels _ =>
      (∀ payload, .start payload ∈ labels → ∃ i < count,
        ShardTaskPayload modelName (bounds i) (bounds (i + 1)) i payload) →
        Correct hash modelName values bounds count state) (fun _ => ?_) ?_ ran tasks
    · exact initial_correct start
    · intro before labels shown label after output kept stepped tasks
      refine (kept fun payload member => tasks payload (List.mem_append_left _ member)).step ?_ stepped
      rintro payload rfl
      exact tasks payload (List.mem_append_right _ List.mem_cons_self)
  have filled : ∀ i : Nat, ∀ activations, s.slots i = some activations →
      activations = runLayers hash modelName 0 (bounds i) values := by
    intro i activations found
    obtain ⟨k, slot, _, layers⟩ := correct.slots i activations found
    rw [layers, Int.ofNat_inj.mp slot]
  exact ⟨filled, filled count⟩

end

/-! ### Two shards and three workers -/

def toyTask (startLayer endLayer shardIndex : Int) : Dict Int :=
  [("kind", .str "pipeline_shard"), ("pipeline_run_id", .str "run-1"), ("shard_index", .int shardIndex),
    ("shard_count", .int 2), ("shard_spec", .dict [("model_name", .str "toy"), ("start_layer", .int startLayer),
      ("end_layer", .int endLayer)])]

/-- Shard 0 has two workers. The first one's post seems to fail and is carried out
late, and again after shard 1 is done. -/
def retried : List (Label Int) :=
  [.start (toyTask 0 1 0), .start (toyTask 1 2 1), .get 1 (.answered 204 (.error "no JSON")),
    .get 0 (.answered 200 (.ok .null)), .post 0 (.exception "timed out"), .write 0,
    .get 1 (.answered 200 (.ok .null)), .start (toyTask 0 1 0), .get 2 (.exception "connection reset"),
    .get 2 (.answered 200 (.ok .null)), .post 1 (.response 500 (.error "no JSON")), .post 1 (.response 200 (.ok .null)),
    .write 0, .post 2 (.response 201 (.ok .null))]

theorem pipeline_exchange_correct_retried :
    ∃ s shown output, run (step Sha256.digest "60.0") (initial Int [5, -3]) retried = some (s, shown) ∧
      s.slots 2 = some output ∧ output = runReference Sha256.digest "toy" 2 [5, -3] := by
  have ends : ((run (step Sha256.digest "60.0") (initial Int [5, -3]) retried).bind fun ran => ran.1.slots 2) =
      some [719227808, 554759087] := by
    decide +kernel
  obtain ⟨⟨s, shown⟩, ran, filled⟩ := Option.bind_eq_some_iff.mp ends
  refine ⟨s, shown, _, ran, filled, ?_⟩
  refine (pipeline_exchange_correct "toy" [5, -3] 2 id rfl (fun payload member => ?_) ran).2 _ filled
  simp only [retried, List.mem_cons, Label.start.injEq, reduceCtorEq, false_or, List.not_mem_nil, or_false] at member
  rcases member with rfl | rfl | rfl
  · exact ⟨0, by decide, rfl, _, rfl, rfl, rfl, rfl⟩
  · exact ⟨1, by decide, rfl, _, rfl, rfl, rfl, rfl⟩
  · exact ⟨0, by decide, rfl, _, rfl, rfl, rfl, rfl⟩

end ComputeCloudNode.PipelineExchange
