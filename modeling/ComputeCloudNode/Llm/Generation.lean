import ComputeCloudNode.Lib.Runs
import ComputeCloudNode.Llm.CachedPasses
import ComputeCloudNode.Llm.UnloadedWeights

/-! Generation over the calls of one executor: any number of runs deliver their
passes to any number of shards, in any interleaving. A cached entry is what the
forward calls of its run and shard returned one after the other, as long as every
pass found the entry of the pass before. A pass that does not find it runs
without a past, as if it were the first. -/
namespace ComputeCloudNode.LLMShardExecutor
open ModelConfig ModelShard Weights KvState Runs

variable {V Tensor Row Cache Logits : Type}

/-- A call of `execute` and what it finds outside. -/
structure Call (V Tensor : Type) where
  taskId : String
  payload : ConfigDict V
  world : World V Tensor

/-- A delivered pass and its call of `module.forward`, if that returned. -/
structure PassRecord (V Tensor Row Cache Logits : Type) where
  run : V
  shardIndex : Int
  forward : Option (ForwardCall V Tensor Row Cache Logits)

/-- The cache of an executor and the passes delivered so far. -/
structure ExecutorState (V Tensor Row Cache Logits : Type) where
  kv : KvState (List Cache) := {}
  passes : List (PassRecord V Tensor Row Cache Logits) := []

/-- One call after the other. -/
def step (conv : PayloadConversions V Row) (sem : CachedSemantics V Tensor Row Cache Logits) (maxKvEntries : Int) :
    Step (ExecutorState V Tensor Row Cache Logits) (Call V Tensor) (Outcome V Tensor Row Cache Logits) :=
  fun state call =>
    let answer := execute conv call.payload sem call.world maxKvEntries call.taskId state.kv
    let delivered := (passOf conv call.payload).toList.map fun pass => ⟨pass.1, pass.2, answer.2.forward⟩
    some ({ kv := answer.1, passes := state.passes ++ delivered }, answer.2)

variable [DecidableEq V]

/-- The passes of a run to a shard, in order. -/
def delivered (passes : List (PassRecord V Tensor Row Cache Logits)) (run : V) (shardIndex : Int) :
    List (PassRecord V Tensor Row Cache Logits) :=
  passes.filter fun record => record.run = run ∧ record.shardIndex = shardIndex

/-- Their calls of `module.forward`. -/
def forwardCalls (passes : List (PassRecord V Tensor Row Cache Logits)) (run : V) (shardIndex : Int) :
    List (ForwardCall V Tensor Row Cache Logits) :=
  (delivered passes run shardIndex).filterMap fun record => record.forward

def tokenCount : List (ForwardCall V Tensor Row Cache Logits) → Nat
  | [] => 0
  | call :: calls => call.input.length + tokenCount calls

/-- The past that these forward calls leave when each is given what the one before
returned, at the position after its tokens. -/
inductive Covers (sem : CachedSemantics V Tensor Row Cache Logits) :
    List (ForwardCall V Tensor Row Cache Logits) → Option (List Cache) → Prop
  | none : Covers sem [] none
  | pass {calls : List (ForwardCall V Tensor Row Cache Logits)} {call : ForwardCall V Tensor Row Cache Logits}
      {kvs : List Cache} (before : Covers sem calls call.pastKeyValues)
      (offset : call.positionOffset = tokenCount calls)
      (ran : (call.loadedModule.shard sem.toSemantics).forward call.input call.pastKeyValues call.positionOffset
        (some true) = .ok (call.output, some kvs)) : Covers sem (calls ++ [call]) (some kvs)

section Conditions

variable (conv : PayloadConversions V Row) (sem : CachedSemantics V Tensor Row Cache Logits) (maxKvEntries : Int)
  (state : ExecutorState V Tensor Row Cache Logits) (call : Call V Tensor)

/-- A run delivers its passes 0, 1, 2, ... to a shard, with no position offset. -/
def PassesInOrder : Prop :=
  ∀ pass ∈ passOf conv call.payload,
    getInt conv.toConversions call.payload ["pass_index"] 0 = .ok (delivered state.passes pass.1 pass.2).length ∧
      getInt conv.toConversions call.payload ["position_offset"] 0 = .ok 0

/-- No other run of the shard has an id with the same text, all earlier passes of
the run went through `module.forward`, and after the first one the executor still
has a non-empty entry for the run and the shard. -/
def PastAvailable : Prop :=
  ∀ pass ∈ passOf conv call.payload,
    (∀ record ∈ state.passes, conv.str record.run = conv.str pass.1 → record.shardIndex = pass.2 →
      record.run = pass.1) ∧
    (∀ record ∈ delivered state.passes pass.1 pass.2, record.forward.isSome) ∧
    (0 < (delivered state.passes pass.1 pass.2).length →
      ∃ kvs ∈ (evictSignal conv call.payload state.kv).cache.lookup (conv.str pass.1, pass.2), kvs.isEmpty = false)

/-- A later pass that returns called `module.forward` with the past that exactly
the earlier passes of its run and shard leave, at the position after their
tokens. -/
def PastCorrect : Prop :=
  ∀ pass ∈ passOf conv call.payload, ∀ passIndex,
    getInt conv.toConversions call.payload ["pass_index"] 0 = .ok passIndex → 0 < passIndex →
    ∀ output, (execute conv call.payload sem call.world maxKvEntries call.taskId state.kv).2.result = .ok output →
      ∃ called, (execute conv call.payload sem call.world maxKvEntries call.taskId state.kv).2.forward = some called ∧
        (delivered state.passes pass.1 pass.2).length = passIndex ∧
        (forwardCalls state.passes pass.1 pass.2).length = passIndex ∧
        Covers sem (forwardCalls state.passes pass.1 pass.2) called.pastKeyValues ∧
        called.positionOffset = tokenCount (forwardCalls state.passes pass.1 pass.2)

instance : Decidable (PassesInOrder conv state call) := inferInstanceAs (Decidable (∀ _ ∈ _, _))

instance : Decidable (PastAvailable conv state call) := inferInstanceAs (Decidable (∀ _ ∈ _, _))

end Conditions

variable {conv : PayloadConversions V Row} {sem : CachedSemantics V Tensor Row Cache Logits} {maxKvEntries : Int}
  {passes : List (PassRecord V Tensor Row Cache Logits)} {record : PassRecord V Tensor Row Cache Logits}
  {state : ExecutorState V Tensor Row Cache Logits} {call : Call V Tensor} {run : V} {shardIndex : Int}

theorem forwardCalls_other (other : ¬ (record.run = run ∧ record.shardIndex = shardIndex)) :
    forwardCalls (passes ++ [record]) run shardIndex = forwardCalls passes run shardIndex := by
  simp [forwardCalls, delivered, other]

theorem forwardCalls_own (own : record.run = run ∧ record.shardIndex = shardIndex) :
    forwardCalls (passes ++ [record]) run shardIndex =
      forwardCalls passes run shardIndex ++ record.forward.toList := by
  rw [forwardCalls, forwardCalls, delivered, delivered, List.filter_append, List.filterMap_append]
  cases forwarded : record.forward <;> simp [own, forwarded]

theorem delivered_of_forwardCalls (some_ : forwardCalls passes run shardIndex ≠ []) :
    ∃ record ∈ passes, record.run = run ∧ record.shardIndex = shardIndex := by
  obtain ⟨called, member⟩ := List.exists_mem_of_ne_nil _ some_
  obtain ⟨record, listed, _⟩ := List.mem_filterMap.mp member
  obtain ⟨present, own⟩ := List.mem_filter.mp listed
  exact ⟨record, present, of_decide_eq_true own⟩

omit [DecidableEq V] in
theorem tokenCount_snoc (calls : List (ForwardCall V Tensor Row Cache Logits))
    (last : ForwardCall V Tensor Row Cache Logits) :
    tokenCount (calls ++ [last]) = tokenCount calls + last.input.length := by
  induction calls with
  | nil => exact Nat.add_comm ..
  | cons call calls ih => rw [List.cons_append, tokenCount, tokenCount, ih, Nat.add_assoc]

/-- What is stored for a key: the past of a run with this id, and its first
layer's cache is as long as the run's tokens. -/
def EntryCovers (conv : PayloadConversions V Row) (sem : CachedSemantics V Tensor Row Cache Logits)
    (passes : List (PassRecord V Tensor Row Cache Logits)) (key : KvKey) (kvs : List Cache) : Prop :=
  ∃ run, conv.str run = key.1 ∧ forwardCalls passes run key.2 ≠ [] ∧
    Covers sem (forwardCalls passes run key.2) (some kvs) ∧
    (kvs.isEmpty = false → pastLength sem (some kvs) = tokenCount (forwardCalls passes run key.2))

/-- A pass that raised leaves the entries as they are. -/
theorem EntryCovers.raised {key : KvKey} {kvs : List Cache} (covered : EntryCovers conv sem passes key kvs)
    (raised : record.forward = none) : EntryCovers conv sem (passes ++ [record]) key kvs := by
  obtain ⟨run, named, some_, covers, sized⟩ := covered
  have same : forwardCalls (passes ++ [record]) run key.2 = forwardCalls passes run key.2 := by
    by_cases own : record.run = run ∧ record.shardIndex = key.2
    · rw [forwardCalls_own own, raised, Option.toList_none, List.append_nil]
    · exact forwardCalls_other own
  exact ⟨run, named, by rwa [same], by rwa [same], by rwa [same]⟩

/-- A pass leaves the entries of the other keys as they are. -/
theorem EntryCovers.other {key : KvKey} {kvs : List Cache} (covered : EntryCovers conv sem passes key kvs)
    (other : key ≠ (conv.str record.run, record.shardIndex)) :
    EntryCovers conv sem (passes ++ [record]) key kvs := by
  obtain ⟨run, named, some_, covers, sized⟩ := covered
  have same : forwardCalls (passes ++ [record]) run key.2 = forwardCalls passes run key.2 := by
    refine forwardCalls_other fun own => other ?_
    rw [own.1, own.2, named]
  exact ⟨run, named, by rwa [same], by rwa [same], by rwa [same]⟩

/-- A pass whose past is available starts from the past of exactly the earlier
passes. -/
theorem past_covers (entries : Stored (EntryCovers conv sem state.passes) state.kv.cache)
    (identified : passOf conv call.payload = some (run, shardIndex)) (inOrder : PassesInOrder conv state call)
    (available : PastAvailable conv state call) {after : KvState (List Cache)}
    {called : ForwardCall V Tensor Row Cache Logits} {kvs : List Cache}
    (ran : PassRan conv sem call.payload maxKvEntries run shardIndex state.kv after called kvs) :
    Covers sem (forwardCalls state.passes run shardIndex) called.pastKeyValues ∧
      called.positionOffset = tokenCount (forwardCalls state.passes run shardIndex) ∧
      pastLength sem called.pastKeyValues = tokenCount (forwardCalls state.passes run shardIndex) := by
  obtain ⟨unique, _, present⟩ := available _ identified
  obtain ⟨given, read, offset⟩ := ran.offset
  cases (inOrder _ identified).2.symm.trans read
  rw [inferOffset_zero] at offset
  have past := ran.past
  rw [offset, past]
  cases found : (evictSignal conv call.payload state.kv).cache.lookup (conv.str run, shardIndex) with
  | none =>
    have first : forwardCalls state.passes run shardIndex = [] := by
      by_contra some_
      obtain ⟨record, listed, own⟩ := delivered_of_forwardCalls some_
      obtain ⟨entry, stored, _⟩ := present (List.length_pos_of_mem (List.mem_filter.mpr ⟨listed, decide_eq_true own⟩))
      rw [found] at stored
      cases stored
    rw [first]
    exact ⟨.none, rfl, rfl⟩
  | some old =>
    obtain ⟨other, named, some_, covers, sized⟩ := evictSignal_keeps state.kv _ entries _ _ found
    obtain ⟨record, listed, own⟩ := delivered_of_forwardCalls some_
    have same : other = run :=
      own.1.symm.trans (unique record listed (by rw [own.1]; exact named) own.2)
    subst same
    obtain ⟨entry, stored, nonempty⟩ := present
      (List.length_pos_of_mem (List.mem_filter.mpr ⟨listed, decide_eq_true own⟩))
    rw [found] at stored
    cases stored
    have size := sized nonempty
    exact ⟨covers, congrArg _ size, size⟩

/-- One call keeps what is stored true. -/
theorem entries_step {next : ExecutorState V Tensor Row Cache Logits} {output : Outcome V Tensor Row Cache Logits}
    (entries : Stored (EntryCovers conv sem state.passes) state.kv.cache) (inOrder : PassesInOrder conv state call)
    (available : PastAvailable conv state call) (stepped : step conv sem maxKvEntries state call = some (next, output)) :
    Stored (EntryCovers conv sem next.passes) next.kv.cache := by
  cases stepped
  cases identified : passOf conv call.payload with
  | none =>
    have kept := execute_other sem call.world maxKvEntries call.taskId identified state.kv
    simp only [Option.toList_none, List.map_nil, List.append_nil]
    exact kept _ entries
  | some pass =>
    obtain ⟨run, shardIndex⟩ := pass
    simp only [Option.toList_some, List.map_cons, List.map_nil]
    obtain ⟨text, raised, kept⟩ | ⟨called, kvs, forwarded, _, ran⟩ :=
      execute_pass sem call.world maxKvEntries call.taskId identified state.kv
    · exact (kept _ entries).mono fun key kvs covered => covered.raised (by rw [raised]; rfl)
    · obtain ⟨covers, offset, size⟩ := past_covers entries identified inOrder available ran
      obtain ⟨touched, cached, stored⟩ := ran.stored
      rw [stored, forwarded]
      refine Stored.kvCachePut ?_ ?_ _
      · rw [cached]
        exact (evictSignal_keeps state.kv _ entries).mono fun key kvs covered other => covered.other other
      · refine ⟨run, rfl, ?_⟩
        rw [forwardCalls_own ⟨rfl, rfl⟩, Option.toList_some, tokenCount_snoc]
        refine ⟨by simp, .pass covers offset ran.ran, fun nonempty => ?_⟩
        cases kvs with
        | nil => cases nonempty
        | cons first rest => rw [← size]; exact forward_grows ran.ran

/-- A forward call that started from the right past, seen from the pass's index. -/
theorem past_correct (entries : Stored (EntryCovers conv sem state.passes) state.kv.cache)
    (inOrder : PassesInOrder conv state call) (available : PastAvailable conv state call) :
    PastCorrect conv sem maxKvEntries state call := by
  rintro ⟨run, shardIndex⟩ identified passIndex read positive output returned
  obtain ⟨text, raised, _⟩ | ⟨called, kvs, forwarded, _, ran⟩ :=
    execute_pass sem call.world maxKvEntries call.taskId identified state.kv
  · rw [raised] at returned
    cases returned
  · obtain ⟨covers, offset, _⟩ := past_covers entries identified inOrder available ran
    have index := (inOrder _ identified).1
    have length : (forwardCalls state.passes run shardIndex).length =
        (delivered state.passes run shardIndex).length := by
      have forwards := (available _ identified).2.1
      rw [forwardCalls, List.length_filterMap_eq_countP, List.countP_eq_length]
      exact forwards
    cases index.symm.trans read
    exact ⟨called, forwarded, rfl, congrArg _ length, covers, offset⟩

/-- In every run of an executor in which each generation run delivers its passes in
order and every pass finds its past, a later pass that returns used exactly the
past of its own run and shard. -/
theorem generation_past_correct {calls : List (Call V Tensor)}
    (inOrder : Meets (step conv sem maxKvEntries) (PassesInOrder conv) {} calls)
    (available : Meets (step conv sem maxKvEntries) (PastAvailable conv) {} calls) :
    Meets (step conv sem maxKvEntries) (PastCorrect conv sem maxKvEntries) {} calls := by
  have met := inOrder.and available
  rintro before call after rfl state shown ran next output stepped
  have entries : Stored (EntryCovers conv sem state.passes) state.kv.cache :=
    run_invariant_of_meets (I := fun state _ _ => Stored (EntryCovers conv sem state.passes) state.kv.cache)
      stored_empty (fun entries met stepped => entries_step entries met.1 met.2 stepped) met.before ran
  obtain ⟨ordered, present⟩ := met before call after rfl state shown ran next output stepped
  exact past_correct entries ordered present

/-! ### Two runs and a cache for one -/

/-- A later pass that returns was given some past. -/
def StartsFromPast (conv : PayloadConversions V Row) (sem : CachedSemantics V Tensor Row Cache Logits)
    (maxKvEntries : Int) (state : ExecutorState V Tensor Row Cache Logits) (call : Call V Tensor) : Prop :=
  ∀ pass ∈ passOf conv call.payload,
    0 < (delivered state.passes pass.1 pass.2).length →
    (execute conv call.payload sem call.world maxKvEntries call.taskId state.kv).2.result.toOption.isSome →
      ∃ called ∈ (execute conv call.payload sem call.world maxKvEntries call.taskId state.kv).2.forward,
        called.pastKeyValues.isSome

instance : Decidable (StartsFromPast conv sem maxKvEntries state call) := inferInstanceAs (Decidable (∀ _ ∈ _, _))

/-- Nothing but no passes at all is covered by no past. -/
theorem startsFromPast (inOrder : PassesInOrder conv state call)
    (correct : PastCorrect conv sem maxKvEntries state call) : StartsFromPast conv sem maxKvEntries state call := by
  intro pass identified later returned
  obtain ⟨output, result⟩ := Option.isSome_iff_exists.mp returned
  have index := (inOrder pass identified).1
  cases ended : (execute conv call.payload sem call.world maxKvEntries call.taskId state.kv).2.result with
  | error text =>
    rw [ended] at result
    cases result
  | ok output =>
    obtain ⟨called, forwarded, _, length, covers, _⟩ :=
      correct pass identified _ index (Int.natCast_pos.mpr later) output ended
    refine ⟨called, forwarded, ?_⟩
    generalize called.pastKeyValues = past at covers
    generalize forwardCalls state.passes pass.1 pass.2 = calls at covers length
    cases covers with
    | none =>
      rw [List.length_nil] at length
      omega
    | pass => rfl

/-- A pass of the model as one shard; the token of a later pass is 0. -/
def passCall (runId : String) (passIndex : Int) : Call Scalar (List Int × Int) where
  taskId := "task"
  payload := promptPayload ++ [("use_cache", .bool true), ("data_run_id", .text runId),
    ("pass_index", .int passIndex), ("next_token_id", .int 0)]
  world := localWorld tinyCheckpoint

/-- Run `b` drops the entry of run `a` between its passes. -/
def interleaved : List (Call Scalar (List Int × Int)) := [passCall "a" 0, passCall "b" 0, passCall "a" 1]

/-- The second pass of run `a` returns the logits of a first pass. -/
theorem evicted_past_restarts :
    (Runs.run (step Scalar.conversions integerCached 1) {} interleaved).map (fun ran => ran.2.map Outcome.result) =
        some [.ok (.final "" 0 [.logits 9] 0), .ok (.final "" 0 [.logits 9] 0), .ok (.final "" 0 [.logits 9] 0)] ∧
      Meets (step Scalar.conversions integerCached 1) (PassesInOrder Scalar.conversions) {} interleaved ∧
      ¬ Meets (step Scalar.conversions integerCached 1) (PastCorrect Scalar.conversions integerCached 1) {}
        interleaved := by
  have inOrder : Meets (step Scalar.conversions integerCached 1) (PassesInOrder Scalar.conversions) {} interleaved := by
    decide +kernel
  have restarted : ¬ Meets (step Scalar.conversions integerCached 1)
      (StartsFromPast Scalar.conversions integerCached 1) {} interleaved := by
    decide +kernel
  refine ⟨by decide +kernel, inOrder, fun correct => restarted ?_⟩
  exact (inOrder.and correct).mono fun state call met => startsFromPast met.1 met.2

/-- Undisturbed, the second pass sees the first. -/
theorem generation_past_correct_undisturbed :
    (Runs.run (step Scalar.conversions integerCached 1) {} [passCall "a" 0, passCall "a" 1]).map
        (fun ran => ran.2.map Outcome.result) =
        some [.ok (.final "" 0 [.logits 9] 0), .ok (.final "" 0 [.logits 29] 0)] ∧
      Meets (step Scalar.conversions integerCached 1) (PastCorrect Scalar.conversions integerCached 1) {}
        [passCall "a" 0, passCall "a" 1] :=
  ⟨by decide +kernel, generation_past_correct (by decide +kernel) (by decide +kernel)⟩

end ComputeCloudNode.LLMShardExecutor
