import ComputeCloudNode.Lib.Runs
import ComputeCloudNode.NodeExecutors

/-! Replacing the executor of a node. Registration wraps the user's executor once,
and `set_executor` writes the field that holds the wrapper as well as the one the
wrapper was built from. A node whose executor is replaced before it registers
routes every task as it should; afterwards the replacement takes all tasks, those
of shards included. -/
namespace ComputeCloudNode.NodeExecutors

variable {E L F : Type}

/-- A call of the user or of `run`. -/
inductive Action (E : Type)
  | setExecutor (executor : E)
  | connectAndRegister

/-- A node and what has happened to it. -/
structure Wiring (E L : Type) where
  node : ComputeNode E L
  /-- What the constructor or the last `set_executor` was given. -/
  given : Option E
  registered : Bool := false

/-- `llmExecutor` is what the probe of registration finds. -/
def step (llmExecutor : Option L) : Runs.Step (Wiring E L) (Action E) Unit
  | wiring, .setExecutor executor =>
    some ({ wiring with node := setExecutor wiring.node executor, given := some executor }, ())
  | wiring, .connectAndRegister =>
    if wiring.registered then none
    else some ({ wiring with node := connectAndRegister wiring.node llmExecutor, registered := true }, ())

/-- A new node in HTTP mode with the pipeline enabled. -/
def start (executor : Option E) : Wiring E L where
  node := new executor true true
  given := executor

/-- `_execute_task`, up to the call it delegates to. -/
def routeTask (node : ComputeNode E L) (taskId : String) (payload : Option (Dict F)) : Route E L :=
  match node.executor with
  | some executor => route taskId payload executor
  | none => .rejected "No executor set - call set_executor() before running."

/-- The tasks of shards go to the workers and to the LLM executor, every other task
to the executor that was given last. What has no executor is rejected. -/
structure RoutesShards (F : Type) (llmExecutor : Option L) (given : Option E) (node : ComputeNode E L) : Prop where
  data : ∀ taskId (payload : Option (Dict F)), isDataShardTask payload →
    ∃ worker, routeTask node taskId payload = .dataWorker worker
  pipeline : ∀ taskId (payload : Option (Dict F)), hasKind payload "pipeline_shard" →
    ∃ worker, routeTask node taskId payload = .pipelineWorker worker
  llm : ∀ taskId (payload : Option (Dict F)), hasKind payload "llm_shard" →
    match llmExecutor with
    | some executor => routeTask node taskId payload = .llmExecutor executor
    | none => ∃ text, routeTask node taskId payload = .rejected text
  others : ∀ taskId (payload : Option (Dict F)), ¬ isDataShardTask payload → ¬ hasKind payload "pipeline_shard" →
    ¬ hasKind payload "llm_shard" →
    match given with
    | some executor => routeTask node taskId payload = .executor executor
    | none => ∃ text, routeTask node taskId payload = .rejected text

theorem hasKind_unique {payload : Option (Dict F)} {kind other : String} (one : hasKind payload kind)
    (two : hasKind payload other) : kind = other := by
  unfold hasKind at one two
  cases found : payload.bind fun payload => payload.lookup "kind" with
  | none =>
    rw [found] at one
    cases one
  | some v =>
    rw [found] at one two
    cases v with
    | str s => exact (of_decide_eq_true one).symm.trans (of_decide_eq_true two)
    | _ => cases one

theorem not_dataShard_of_kind {payload : Option (Dict F)} {kind : String} (is : hasKind payload kind)
    (shard : kind ≠ "data_shard") (merge : kind ≠ "data_merge") : isDataShardTask payload = false := by
  unfold isDataShardTask
  rw [Bool.or_eq_false_iff, Bool.eq_false_iff, Bool.eq_false_iff]
  exact ⟨fun other => shard (hasKind_unique is other), fun other => merge (hasKind_unique is other)⟩

/-- The wrapper of registration routes as it should. -/
theorem wrapper_routesShards {node : ComputeNode E L} {dataWorker : DataShardWorker E}
    {pipelineWorker : PipelineShardWorker} {llmExecutor : Option L} {given : Option E}
    (wrapped : node.executor = some (.dataShardAware dataWorker (some pipelineWorker) given llmExecutor)) :
    RoutesShards F llmExecutor given node where
  data taskId payload shard := by
    refine ⟨dataWorker, ?_⟩
    simp only [routeTask, wrapped, route, if_pos shard]
  pipeline taskId payload shard := by
    have notData := not_dataShard_of_kind shard (by decide) (by decide)
    have notLlm : ¬ hasKind payload "llm_shard" := fun llm => absurd (hasKind_unique shard llm) (by decide)
    refine ⟨pipelineWorker, ?_⟩
    simp only [routeTask, wrapped, route, notData, if_neg notLlm, if_pos shard]
    rfl
  llm taskId payload shard := by
    have notData := not_dataShard_of_kind shard (by decide) (by decide)
    cases llmExecutor with
    | none =>
      simp only [routeTask, wrapped, route, notData, if_pos shard]
      exact ⟨_, rfl⟩
    | some executor =>
      simp only [routeTask, wrapped, route, notData, if_pos shard]
      rfl
  others taskId payload notData notPipeline notLlm := by
    cases given with
    | none =>
      simp only [routeTask, wrapped, route, if_neg notData, if_neg notLlm, if_neg notPipeline]
      exact ⟨_, rfl⟩
    | some executor => simp only [routeTask, wrapped, route, if_neg notData, if_neg notLlm, if_neg notPipeline]

/-- An executor that is set afterwards takes the tasks of shards too. -/
theorem setExecutor_loses_shards (node : ComputeNode E L) (llmExecutor : Option L) (given : Option E) (executor : E) :
    ¬ RoutesShards F llmExecutor given (setExecutor node executor) := by
  intro routes
  obtain ⟨worker, routed⟩ := routes.data "" (some [("kind", .str "data_shard")]) rfl
  cases routed

/-- What the wrapper would be built from is what was given last. -/
structure Consistent (wiring : Wiring E L) : Prop where
  base : wiring.node.baseExecutor = wiring.given
  pipeline : wiring.node.enablePipeline = true
  http : wiring.node.useHttp = true

variable {llmExecutor : Option L} {wiring next : Wiring E L} {action : Action E} {shown : Unit}

theorem start_consistent (executor : Option E) : Consistent (start executor : Wiring E L) := ⟨rfl, rfl, rfl⟩

theorem step_consistent (consistent : Consistent wiring) (stepped : step llmExecutor wiring action = some (next, shown)) :
    Consistent next := by
  obtain ⟨base, pipeline, http⟩ := consistent
  cases action with
  | setExecutor executor =>
    cases stepped
    exact ⟨rfl, pipeline, http⟩
  | connectAndRegister =>
    by_cases registered : wiring.registered
    · simp only [step, registered, if_true] at stepped
      cases stepped
    · rw [step, if_neg registered] at stepped
      cases stepped
      refine ⟨?_, ?_, ?_⟩ <;> simp only [connectAndRegister, pipeline, http, Bool.and_self, if_true, base]

theorem connectAndRegister_routesShards (consistent : Consistent wiring) :
    RoutesShards F llmExecutor wiring.given (connectAndRegister wiring.node llmExecutor) := by
  have wrapped : (connectAndRegister wiring.node llmExecutor).executor =
      some (.dataShardAware {} (some {}) wiring.given llmExecutor) := by
    simp only [connectAndRegister, consistent.pipeline, consistent.http, Bool.and_self, if_true, consistent.base]
  exact wrapper_routesShards wrapped

/-- The executor is not replaced any more once the node has registered. -/
def SetBeforeRegistration (wiring : Wiring E L) : Action E → Prop
  | .setExecutor _ => wiring.registered = false
  | .connectAndRegister => True

/-- In all states after registration the tasks of shards are routed to their
workers, exactly if no executor is set after registration. -/
theorem shard_routing_survives_iff (F : Type) (llmExecutor : Option L) (executor : Option E)
    (actions : List (Action E)) :
    Runs.Always (step llmExecutor)
        (fun wiring => wiring.registered = true → RoutesShards F llmExecutor wiring.given wiring.node)
        (start executor) actions ↔
      Runs.Meets (step llmExecutor) SetBeforeRegistration (start executor) actions := by
  refine Runs.always_iff_meets_of_invariant (I := Consistent) (start_consistent executor) step_consistent ?_ ?_ ?_
  · intro registered
    cases registered
  · intro before action after output consistent routes early stepped registered
    cases action with
    | setExecutor executor =>
      cases stepped
      cases early.symm.trans registered
    | connectAndRegister =>
      by_cases already : before.registered
      · simp only [step, already, if_true] at stepped
        cases stepped
      · rw [step, if_neg already] at stepped
        cases stepped
        exact connectAndRegister_routesShards consistent
  · intro before action after output consistent routes late stepped holds
    cases action with
    | connectAndRegister => exact late trivial
    | setExecutor executor =>
      have registered : before.registered = true := Bool.of_not_eq_false late
      cases stepped
      exact setExecutor_loses_shards _ _ _ _ (holds registered)

/-- A node that registers and is then given a second executor. -/
theorem replacement_takes_shards :
    ¬ Runs.Always (step (none : Option Unit))
      (fun wiring => wiring.registered = true → RoutesShards Int none wiring.given wiring.node)
      (start (some "first")) [.connectAndRegister, .setExecutor "second"] := by
  intro always
  exact setExecutor_loses_shards _ _ _ "second" (always [.connectAndRegister, .setExecutor "second"] [] rfl _ _ rfl rfl)

end ComputeCloudNode.NodeExecutors
