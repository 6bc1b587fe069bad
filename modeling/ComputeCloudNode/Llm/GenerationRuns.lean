import ComputeCloudNode.Llm.ConcurrentGeneration

/-! Generations that share an executor, over whole runs. As long as the entries of all of
them fit into the cache, each picks the tokens that the single module picks without any
cache, in every interleaving, and each that the single module can finish is finished. -/
namespace ComputeCloudNode.LLMShardExecutor
open ModelConfig ModelShard Weights

variable {ι F Tensor Row Head Score Logits : Type} {layout : HeadLayout} [PyRuntime F]
  {model : LlamaArithmetic (Value F) Tensor Row Head Score Logits layout} {lib : JsonLibrary F Row}
  {pack : List (Item Row Logits) → Dict F} {world : World (Value F) Tensor} {maxKvEntries : Int}

namespace Deployment

variable {deployed : Deployment F Tensor} {kv : KvState (List (Kv layout Head))} {tokens : List Int} {shard : Nat}
  {input : StageInput F} {states answered : List (List (Kv layout Head))} {feed rows : List (Item Row Logits)}
  {built : BuiltShard (Value F) Tensor} {initial : Params Tensor} {passIndex : Nat} {payload : Dict F}

variable (initial) in
/-- The first half of a call builds the shard and reads its entry. -/
theorem Sound.begin (sound : deployed.Sound model lib world) (below : shard < deployed.run.shardCount)
    (asks : Asks lib deployed.run passIndex shard payload) (taskId : String)
    (kv : KvState (List (Kv layout Head))) :
    ∃ built kv', deployed.Builds model shard built ∧ kv'.cache = kv.cache ∧
      beginExecute lib.conversions payload model.semantics { world with initial := initial } taskId kv =
        (kv', .ok ⟨built, passIndex, kv.cache.lookup (deployed.run.runId, (shard : Int))⟩) := by
  obtain ⟨built, ran, builds⟩ := sound.builds below asks initial
  have kept : evictSignal lib.conversions payload kv = kv := by
    rw [evictSignal, asks.evicts]
  have text : lib.conversions.str (.str deployed.run.runId) = deployed.run.runId := rfl
  refine ⟨built, (kv.kvCacheGet deployed.run.runId shard).2, builds, KvState.kvCacheGet_cache .., ?_⟩
  simp only [beginExecute, asks.task, sound.accepted, if_true, kept, ran, asks.passIndex, asks.cachedRun, pastOf, text,
    builds.shardIndex, KvState.kvCacheGet_value]

variable (initial) in
/-- The second half runs the stage and stores its new state. -/
theorem Sound.finish (sound : deployed.Sound model lib world) (wire : Wire model lib pack)
    (builds : deployed.Builds model shard built) (feeds : deployed.Feeds model pack input shard tokens rows)
    {past : Option (List (Kv layout Head))}
    (valid : (model.stageAt deployed.cfg deployed.whole deployed.run.shardCount deployed.run.boundary shard).Valid
      (past.getD (model.freshAt deployed.cfg deployed.whole deployed.run.boundary shard)))
    (maxKvEntries : Int) (kv : KvState (List (Kv layout Head))) :
    ((model.stageAt deployed.cfg deployed.whole deployed.run.shardCount deployed.run.boundary shard).run
        (past.getD (model.freshAt deployed.cfg deployed.whole deployed.run.boundary shard)) rows = none ∧
      ∃ text, finishExecute lib.conversions (deployed.run.payload tokens.length shard input) model.semantics
        { world with initial := initial } maxKvEntries (.ok ⟨built, tokens.length, past⟩) kv = (kv, .raised text)) ∨
    ∃ output kvs call,
      (model.stageAt deployed.cfg deployed.whole deployed.run.shardCount deployed.run.boundary shard).run
        (past.getD (model.freshAt deployed.cfg deployed.whole deployed.run.boundary shard)) rows = some (output, kvs) ∧
      finishExecute lib.conversions (deployed.run.payload tokens.length shard input) model.semantics
        { world with initial := initial } maxKvEntries (.ok ⟨built, tokens.length, past⟩) kv =
        (kv.kvCachePut maxKvEntries deployed.run.runId shard kvs,
          { forward := some call, result := packOutput lib.conversions
              (deployed.run.payload tokens.length shard input) model.semantics { world with initial := initial } built
              output }) := by
  have asks := payload_asks deployed.run lib tokens.length shard input
  have called := sound.callForward initial wire builds feeds past valid
  cases forwarded : LLMShardExecutor.callForward lib.conversions (deployed.run.payload tokens.length shard input)
      model.semantics { world with initial := initial } built true tokens.length past with
  | error text =>
    rw [forwarded] at called
    refine .inl ⟨Option.map_eq_none_iff.mp called.symm, text, ?_⟩
    simp only [finishExecute, asks.useCache, forwarded]
  | ok call =>
    rw [forwarded] at called
    obtain ⟨⟨output, kvs⟩, ran, same⟩ := Option.map_eq_some_iff.mp called.symm
    obtain ⟨answered, new⟩ := Prod.mk.inj same
    refine .inr ⟨output, kvs, call, ran, ?_⟩
    simp only [finishExecute, asks.useCache, forwarded, asks.cachedRun, store, ← new, ← answered, builds.shardIndex]
    rfl

/-- Why a pass that is needed fails: the single module fails there too, or an output is
refused. -/
def Excused (model : LlamaArithmetic (Value F) Tensor Row Head Score Logits layout) (deployed : Deployment F Tensor)
    (tokens : List Int) : Prop :=
  tokens.length < deployed.run.nTokens ∧
    ((deployed.pipeline model).recompute model.argmax .token (deployed.freshStates model) (tokens.length + 1)
        (deployed.prompt.map .token) = none ∨
      ∃ output : List (Item Row Logits), output ≠ [] ∧ output.length ≤ deployed.prompt.length ∧
        model.validate output ≠ .ok ())

/-- The steps that a generation has made. -/
def moves (run : Generation F) : Client F Tensor Head layout → Nat
  | .ready tokens _ shard => 2 * (run.shardCount * tokens.length + shard)
  | .inside tokens _ shard _ => 2 * (run.shardCount * tokens.length + shard) + 1
  | .failed _ _ => 0
  | .done _ => 2 * (run.shardCount * run.nTokens) + 1

variable (initial) in
/-- The end of a call, seen from its generation. -/
theorem Sound.receive (sound : deployed.Sound model lib world) (builds : deployed.Builds model shard built)
    (passing : deployed.Passing model pack kv tokens shard input states feed rows answered)
    (some_ : tokens.length < deployed.run.nTokens) {kv' : KvState (List (Kv layout Head))} {output : List (Item Row Logits)}
    {kvs : List (Kv layout Head)}
    (ran : (model.stageAt deployed.cfg deployed.whole deployed.run.shardCount deployed.run.boundary shard).run
      (deployed.heldAt model kv shard) rows = some (output, kvs))
    (stored : kv'.cache = kv.cache.insert (deployed.run.runId, (shard : Int)) kvs) :
    ∃ client, receive pack tokens shard (packOutput lib.conversions (deployed.run.payload tokens.length shard input)
        model.semantics { world with initial := initial } built output) = client ∧
      ((∃ text, client = .failed tokens text ∧ deployed.Excused model tokens) ∨
        (deployed.ClientOk model pack kv' client ∧
          moves deployed.run client = 2 * (deployed.run.shardCount * tokens.length + shard) + 2)) := by
  have new : kv'.cache.lookup (deployed.run.runId, (shard : Int)) = some kvs := by
    rw [stored, AList.lookup_insert]
  have others : ∀ other : Int, other ≠ shard →
      kv'.cache.lookup (deployed.run.runId, other) = kv.cache.lookup (deployed.run.runId, other) := by
    intro other differs
    rw [stored, AList.lookup_insert_ne fun same => differs (Prod.mk.inj same).2]
  have length : output.length = feed.length :=
    (Resumable.length_run _ passing.state_valid ran).trans passing.rows_length
  have nonempty : output ≠ [] := List.ne_nil_of_length_pos (length ▸ passing.bounded.1)
  have refused : model.validate output ≠ .ok () → deployed.Excused model tokens :=
    fun invalid => ⟨some_, .inr ⟨output, nonempty, length ▸ passing.bounded.2, invalid⟩⟩
  refine ⟨_, rfl, ?_⟩
  by_cases last : shard + 1 = deployed.run.shardCount
  · have some_end := List.getLast?_eq_some_getLast nonempty
    obtain ⟨token, packed⟩ := sound.packOutput_final initial builds
      (payload_asks deployed.run lib tokens.length shard input) last some_end
    rw [packed]
    cases checked : model.validate output with
    | error text =>
      exact .inl ⟨text, rfl, refused (by rw [checked]; exact nofun)⟩
    | ok _ =>
      refine .inr ⟨⟨?_, _, _, _, _, passing.final ran new others last some_end⟩, ?_⟩
      · rw [List.length_append, List.length_singleton]
        exact (Nat.lt_or_eq_of_le some_).imp_right fun same => ⟨same, rfl⟩
      · simp only [Except.map, LLMShardExecutor.receive, moves, List.length_append, List.length_singleton, Nat.mul_succ,
          ← last]
        omega
  · have inner : shard + 1 < deployed.run.shardCount := Nat.lt_of_le_of_ne passing.below last
    rw [builds.packOutput_hidden last]
    cases checked : model.validate output with
    | error text =>
      exact .inl ⟨text, rfl, refused (by rw [checked]; exact nofun)⟩
    | ok _ =>
      have notLast : decide (shard + 1 = deployed.run.shardCount) = false := decide_eq_false last
      have hidden := ran
      rw [LlamaArithmetic.stageAt, notLast] at hidden
      obtain ⟨next, rfl⟩ := stage_hidden hidden
      have feeds : deployed.Feeds model pack (.output (pack (next.map .hidden))) (shard + 1) tokens (next.map .hidden) :=
        .output (Nat.succ_pos shard) (fun none_ => nonempty (by rw [none_]; rfl)) checked
      refine .inr ⟨⟨.inl some_, _, _, _, _, passing.later ran new others inner feeds⟩, ?_⟩
      simp only [Except.map, LLMShardExecutor.receive, moves]
      omega

end Deployment

/-! ### All generations -/

section Sharing

variable [Fintype ι] [DecidableEq ι] {deployed : ι → Deployment F Tensor} {initial : ι → Nat → Nat → Params Tensor}
  {state next : System ι F Tensor Head layout} {r : ι} {schedule : List ι} {shown : List Unit}

/-- The generations have run ids of their own, and the entries of all their shards fit
into the cache. -/
structure Sharing (model : LlamaArithmetic (Value F) Tensor Row Head Score Logits layout) (lib : JsonLibrary F Row)
    (pack : List (Item Row Logits) → Dict F) (world : World (Value F) Tensor) (maxKvEntries : Int)
    (deployed : ι → Deployment F Tensor) : Prop where
  sound : ∀ r, (deployed r).Sound model lib world
  wire : Deployment.Wire model lib pack
  distinct : Function.Injective fun r => (deployed r).run.runId
  room : ((∑ r, (deployed r).run.shardCount : Nat) : Int) ≤ maxKvEntries

/-- The keys that the generations use. -/
def ownKeys (deployed : ι → Deployment F Tensor) : Finset KvKey :=
  Finset.univ.biUnion fun r =>
    (Finset.range (deployed r).run.shardCount).image fun (shard : Nat) => ((deployed r).run.runId, (shard : Int))

omit [PyRuntime F] [DecidableEq ι] in
theorem mem_ownKeys {key : KvKey} : key ∈ ownKeys deployed ↔
    ∃ r, ∃ shard < (deployed r).run.shardCount, key = ((deployed r).run.runId, (shard : Int)) := by
  simp only [ownKeys, Finset.mem_biUnion, Finset.mem_univ, true_and, Finset.mem_image, Finset.mem_range, eq_comm]

omit [PyRuntime F] [DecidableEq ι] in
theorem card_ownKeys : (ownKeys deployed).card ≤ ∑ r, (deployed r).run.shardCount := by
  refine Finset.card_biUnion_le.trans (Finset.sum_le_sum fun r _ => ?_)
  exact Finset.card_image_le.trans (Nat.le_of_eq (Finset.card_range _))

omit [PyRuntime F] [DecidableEq ι] in
theorem keys_length_le {Kv : Type} {cache : AList fun _ : KvKey => Kv} (owned : ∀ key ∈ cache, key ∈ ownKeys deployed) :
    cache.keys.length ≤ ∑ r, (deployed r).run.shardCount := by
  rw [← List.toFinset_card_of_nodup cache.keys_nodup]
  refine (Finset.card_le_card fun key member => ?_).trans card_ownKeys
  exact owned key (AList.mem_keys.mpr (List.mem_toFinset.mp member))

/-- What is true of the system between two steps. -/
structure Consistent (model : LlamaArithmetic (Value F) Tensor Row Head Score Logits layout)
    (pack : List (Item Row Logits) → Dict F) (deployed : ι → Deployment F Tensor)
    (state : System ι F Tensor Head layout) : Prop where
  owned : ∀ key ∈ state.kv.cache, key ∈ ownKeys deployed
  ok : ∀ r, (deployed r).ClientOk model pack state.kv (state.clients r)

omit [PyRuntime F] [DecidableEq ι] in
theorem consistent_initial (sound : ∀ r, (deployed r).prompt ≠ [] ∧ 0 < (deployed r).run.shardCount) :
    Consistent model pack deployed ({} : System ι F Tensor Head layout) where
  owned key member := absurd member (AList.notMem_empty key)
  ok r := by
    obtain ⟨prompted, positive⟩ := sound r
    refine ⟨?_, _, _, _, _, positive, .init pipeline_valid, ⟨?_, ?_⟩, rfl, rfl, .prompt⟩
    · exact (Nat.eq_zero_or_pos (deployed r).run.nTokens).symm.imp id fun none_ => ⟨none_.symm, rfl⟩
    · rw [List.length_map]
      exact List.length_pos_of_ne_nil prompted
    · exact Nat.le_of_eq (List.length_map _)

/-- What one step does to the generation that makes it. -/
def Moved (model : LlamaArithmetic (Value F) Tensor Row Head Score Logits layout) (deployed : Deployment F Tensor)
    (before after : Client F Tensor Head layout) : Prop :=
  (∃ text, after = .failed before.tokens text ∧ deployed.Excused model before.tokens) ∨
    Deployment.moves deployed.run after = Deployment.moves deployed.run before + 1

/-- A step keeps the system consistent if it does so for the generation that makes it and
touches no entry of another run. -/
theorem Consistent.move (sharing : Sharing model lib pack world maxKvEntries deployed)
    (consistent : Consistent model pack deployed state) {kv : KvState (List (Kv layout Head))}
    {client : Client F Tensor Head layout} (owned : ∀ key ∈ kv.cache, key ∈ ownKeys deployed)
    (others : ∀ key : KvKey, key.1 ≠ (deployed r).run.runId → kv.cache.lookup key = state.kv.cache.lookup key)
    (ok : (deployed r).ClientOk model pack kv client) : Consistent model pack deployed (state.move r kv client) where
  owned := owned
  ok other := by
    by_cases same : other = r
    · subst same
      rw [System.move_self]
      exact ok
    · rw [System.move_other same]
      exact (consistent.ok other).frame fun shard => others _ fun named => same (sharing.distinct named)

variable (sharing : Sharing model lib pack world maxKvEntries deployed)
include sharing

/-- A generation begins a call. -/
theorem Consistent.begin (consistent : Consistent model pack deployed state) {tokens : List Int}
    {input : StageInput F} {shard : Nat} (stands : state.clients r = .ready tokens input shard)
    (some_ : tokens.length < (deployed r).run.nTokens) :
    ∃ kv client, clientStep model lib pack world maxKvEntries initial (fun r => (deployed r).run) state r =
        some (state.move r kv client, ()) ∧
      Consistent model pack deployed (state.move r kv client) ∧
      Deployment.moves (deployed r).run client = Deployment.moves (deployed r).run (state.clients r) + 1 := by
  have here := consistent.ok r
  rw [stands] at here
  obtain ⟨_, states, feed, rows, answered, passing⟩ := here
  obtain ⟨built, kv, builds, kept, begun⟩ := (sharing.sound r).begin (initial r tokens.length shard)
    passing.below (payload_asks (deployed r).run lib tokens.length shard input) s!"s{shard}" state.kv
  refine ⟨kv, _, clientStep_begin initial (fun r => (deployed r).run) stands some_ begun,
    consistent.move sharing ?_ ?_ ?_, by rw [stands]; rfl⟩
  · rw [kept]
    exact consistent.owned
  · intro key _
    rw [kept]
  · have ok : (deployed r).ClientOk model pack state.kv (.inside tokens input shard (.ok
        ⟨built, tokens.length, state.kv.cache.lookup ((deployed r).run.runId, (shard : Int))⟩)) :=
      ⟨some_, ⟨states, feed, rows, answered, passing⟩, built, builds, rfl⟩
    exact ok.frame fun shard => by rw [kept]

/-- A generation with all its tokens leaves nothing behind. -/
theorem Consistent.evict (consistent : Consistent model pack deployed state) {tokens : List Int}
    {input : StageInput F} {shard : Nat} (stands : state.clients r = .ready tokens input shard)
    (full : ¬ tokens.length < (deployed r).run.nTokens) :
    ∃ kv client, clientStep model lib pack world maxKvEntries initial (fun r => (deployed r).run) state r =
        some (state.move r kv client, ()) ∧
      Consistent model pack deployed (state.move r kv client) ∧
      Deployment.moves (deployed r).run client = Deployment.moves (deployed r).run (state.clients r) + 1 := by
  have here := consistent.ok r
  rw [stands] at here
  obtain ⟨bound, states, feed, rows, answered, passing⟩ := here
  obtain ⟨length, rfl⟩ := bound.resolve_left full
  refine ⟨_, _, clientStep_evict initial (fun r => (deployed r).run) stands full, consistent.move sharing ?_ ?_ ?_, ?_⟩
  · intro key member
    apply consistent.owned
    rw [← AList.lookup_isSome] at member ⊢
    rw [KvState.evictRunId_lookup] at member
    split at member
    next => cases member
    next => exact member
  · intro key foreign
    rw [KvState.evictRunId_lookup, if_neg foreign]
  · refine ⟨length, passing.resumed.picks, fun shard => ?_⟩
    rw [KvState.evictRunId_lookup, if_pos rfl]
  · rw [stands]
    simp only [Deployment.moves, length, Nat.add_zero]

/-- A generation ends a call. -/
theorem Consistent.finish (consistent : Consistent model pack deployed state) {tokens : List Int}
    {input : StageInput F} {shard : Nat} {prepared : Except String (Prepared (Value F) Tensor (Kv layout Head))}
    (stands : state.clients r = .inside tokens input shard prepared) :
    ∃ kv client, clientStep model lib pack world maxKvEntries initial (fun r => (deployed r).run) state r =
        some (state.move r kv client, ()) ∧
      Consistent model pack deployed (state.move r kv client) ∧ Moved model (deployed r) (state.clients r) client := by
  have sound := sharing.sound r
  have here := consistent.ok r
  rw [stands] at here
  obtain ⟨some_, ⟨states, feed, rows, answered, passing⟩, built, builds, rfl⟩ := here
  rw [stands]
  obtain ⟨failed, text, ended⟩ | ⟨output, kvs, call, ran, ended⟩ :=
    sound.finish (initial r tokens.length shard) sharing.wire builds passing.feeds passing.state_valid
      maxKvEntries state.kv
  · refine ⟨_, _, clientStep_end initial (fun r => (deployed r).run) stands ended, ?_,
      .inl ⟨text, rfl, some_, .inl (passing.stuck failed)⟩⟩
    exact consistent.move sharing consistent.owned (fun _ _ => rfl) passing.resumed.picks
  · have owned : ∀ key ∈ state.kv.cache.insert ((deployed r).run.runId, (shard : Int)) kvs, key ∈ ownKeys deployed := by
      intro key member
      rcases (AList.mem_insert _).mp member with rfl | old
      · exact mem_ownKeys.mpr ⟨r, shard, passing.below, rfl⟩
      · exact consistent.owned key old
    have fits := (Int.ofNat_le.mpr (keys_length_le owned)).trans sharing.room
    have stored := KvState.kvCachePut_fits fits
    obtain ⟨client, received, outcome⟩ := sound.receive (initial r tokens.length shard) builds passing
      some_ ran stored
    have stepped : clientStep model lib pack world maxKvEntries initial (fun r => (deployed r).run) state r =
        some (state.move r (state.kv.kvCachePut maxKvEntries (deployed r).run.runId shard kvs) client, ()) := by
      subst received
      exact clientStep_end initial (fun r => (deployed r).run) stands ended
    refine ⟨_, _, stepped, consistent.move sharing ?_ ?_ ?_, ?_⟩
    · rw [stored]
      exact owned
    · intro key foreign
      rw [stored, AList.lookup_insert_ne]
      rintro rfl
      exact foreign rfl
    · obtain ⟨text, rfl, _⟩ | ⟨ok, _⟩ := outcome
      · exact passing.resumed.picks
      · exact ok
    · exact outcome.imp id fun moved => moved.2

/-- One step of one generation. -/
theorem Consistent.step (consistent : Consistent model pack deployed state)
    (stepped : clientStep model lib pack world maxKvEntries initial (fun r => (deployed r).run) state r =
      some (next, ())) :
    Consistent model pack deployed next ∧ Moved model (deployed r) (state.clients r) (next.clients r) ∧
      ∀ other, other ≠ r → next.clients other = state.clients other := by
  have moves : ∃ kv client, clientStep model lib pack world maxKvEntries initial (fun r => (deployed r).run) state r =
      some (state.move r kv client, ()) ∧
        Consistent model pack deployed (state.move r kv client) ∧ Moved model (deployed r) (state.clients r) client := by
    cases stands : state.clients r with
    | ready tokens input shard =>
      rw [← stands]
      by_cases some_ : tokens.length < (deployed r).run.nTokens
      · obtain ⟨kv, client, ran, ok, moved⟩ := consistent.begin sharing stands some_
        exact ⟨kv, client, ran, ok, .inr moved⟩
      · obtain ⟨kv, client, ran, ok, moved⟩ := consistent.evict sharing stands some_
        exact ⟨kv, client, ran, ok, .inr moved⟩
    | inside tokens input shard prepared =>
      rw [← stands]
      exact consistent.finish sharing stands
    | failed tokens text =>
      simp only [clientStep, stands] at stepped
      cases stepped
    | done tokens =>
      simp only [clientStep, stands] at stepped
      cases stepped
  obtain ⟨kv, client, ran, ok, moved⟩ := moves
  cases ran.symm.trans stepped
  refine ⟨ok, ?_, fun other differs => System.move_other differs⟩
  rw [System.move_self]
  exact moved

omit [PyRuntime F] sharing in
theorem clientOk_picks {deployed : Deployment F Tensor} {kv : KvState (List (Kv layout Head))}
    {client : Client F Tensor Head layout} (ok : deployed.ClientOk model pack kv client) :
    deployed.Picks model client.tokens := by
  cases client with
  | ready tokens input shard =>
    obtain ⟨_, _, _, _, _, passing⟩ := ok
    exact passing.resumed.picks
  | inside tokens input shard prepared =>
    obtain ⟨_, ⟨_, _, _, _, passing⟩, _⟩ := ok
    exact passing.resumed.picks
  | failed tokens text => exact ok
  | done tokens => exact ok.2.1

theorem consistent_run
    (ran : Runs.run (clientStep model lib pack world maxKvEntries initial fun r => (deployed r).run) {} schedule =
      some (state, shown)) : Consistent model pack deployed state := by
  refine Runs.run_state_invariant (consistent_initial fun r => ?_) (fun ok stepped => (ok.step sharing stepped).1) ran
  exact ⟨(sharing.sound r).prompted, (sharing.sound r).positive⟩

/-- The tokens of a generation are always the first tokens of the single module's loop,
which has no cache and no shards, however the generations interleave and overlap. -/
theorem generations_match_single_module
    (ran : Runs.run (clientStep model lib pack world maxKvEntries initial fun r => (deployed r).run) {} schedule =
      some (state, shown)) (r : ι) :
    greedy model.argmax ((deployed r).single model) (state.clients r).tokens.length (deployed r).prompt =
      .ok (state.clients r).tokens := by
  have picks := clientOk_picks ((consistent_run sharing ran).ok r)
  have sound := sharing.sound r
  apply Fallible.toOption_eq_some_iff.mp
  rw [← picks]
  exact (recompute_eq_greedy model (deployed r).cfg (deployed r).whole sound.positive sound.first sound.ordered _
    sound.prompted).symm

omit [DecidableEq ι] in
theorem not_excused {tokens done : List Int}
    (picks : greedy model.argmax ((deployed r).single model) (deployed r).run.nTokens (deployed r).prompt = .ok tokens)
    (accepted : ∀ output : List (Item Row Logits), output ≠ [] → output.length ≤ (deployed r).prompt.length →
      model.validate output = .ok ()) : ¬ (deployed r).Excused model done := by
  rintro ⟨some_, stuck | ⟨output, nonempty, bounded, refused⟩⟩
  · have sound := sharing.sound r
    have whole := recompute_eq_greedy model (deployed r).cfg (deployed r).whole
      sound.positive sound.first sound.ordered (deployed r).run.nTokens sound.prompted
    have found := Resumable.recompute_isSome_of_le (m := done.length + 1)
      (by rw [whole]; exact congrArg (fun ran => ran.toOption.isSome) picks) some_
    have none_ := congrArg Option.isSome stuck
    exact Bool.false_ne_true (none_.symm.trans found)
  · exact refused (accepted output nonempty bounded)

/-- The steps of a generation are counted, and it does not fail. -/
theorem moves_counted
    (ran : Runs.run (clientStep model lib pack world maxKvEntries initial fun r => (deployed r).run) {} schedule =
      some (state, shown)) (r : ι) {tokens : List Int}
    (picks : greedy model.argmax ((deployed r).single model) (deployed r).run.nTokens (deployed r).prompt = .ok tokens)
    (accepted : ∀ output : List (Item Row Logits), output ≠ [] → output.length ≤ (deployed r).prompt.length →
      model.validate output = .ok ()) :
    schedule.count r = Deployment.moves (deployed r).run (state.clients r) ∧
      ∀ tokens text, state.clients r ≠ .failed tokens text := by
  have counted : Consistent model pack deployed state ∧
      schedule.count r = Deployment.moves (deployed r).run (state.clients r) ∧
        ∀ tokens text, state.clients r ≠ .failed tokens text := by
    refine Runs.run_invariant (I := fun state schedule _ => Consistent model pack deployed state ∧
      schedule.count r = Deployment.moves (deployed r).run (state.clients r) ∧
        ∀ tokens text, state.clients r ≠ .failed tokens text) ?_ ?_ ran
    · refine ⟨consistent_initial fun r => ?_, rfl, nofun⟩
      exact ⟨(sharing.sound r).prompted, (sharing.sound r).positive⟩
    · intro before schedule _ mover after _ ⟨consistent, count, going⟩ stepped
      obtain ⟨ok, moved, others⟩ := consistent.step sharing stepped
      refine ⟨ok, ?_⟩
      rw [List.count_append, List.count_singleton]
      by_cases own : mover = r
      · subst own
        rw [beq_self_eq_true, if_pos rfl]
        obtain ⟨_, _, excused⟩ | one := moved
        · exact absurd excused (not_excused sharing picks accepted)
        · refine ⟨by rw [count, one], fun tokens text failed => ?_⟩
          rw [failed] at one
          cases one
      · rw [if_neg (by simpa using own), others r (Ne.symm own)]
        exact ⟨count, going⟩
  exact counted.2

/-- A generation whose tokens the single module can compute, and whose outputs are
accepted, does not fail: it can move until it has made two steps for each shard and token
and one more. Then it is done, with these tokens, and the executor holds nothing of it. -/
theorem generation_completes
    (ran : Runs.run (clientStep model lib pack world maxKvEntries initial fun r => (deployed r).run) {} schedule =
      some (state, shown)) (r : ι) {tokens : List Int}
    (picks : greedy model.argmax ((deployed r).single model) (deployed r).run.nTokens (deployed r).prompt = .ok tokens)
    (accepted : ∀ output : List (Item Row Logits), output ≠ [] → output.length ≤ (deployed r).prompt.length →
      model.validate output = .ok ()) :
    (schedule.count r ≠ 2 * ((deployed r).run.shardCount * (deployed r).run.nTokens) + 1 →
      (clientStep model lib pack world maxKvEntries initial (fun r => (deployed r).run) state r).isSome) ∧
    (schedule.count r = 2 * ((deployed r).run.shardCount * (deployed r).run.nTokens) + 1 →
      state.clients r = .done tokens ∧ ∀ key ∈ state.kv.cache, key.1 ≠ (deployed r).run.runId) := by
  obtain ⟨count, going⟩ := moves_counted sharing ran r picks accepted
  have ok := (consistent_run sharing ran).ok r
  constructor
  · intro unfinished
    apply clientStep_isSome
    refine ⟨going _, fun done => unfinished ?_⟩
    rw [count, done]
    rfl
  · intro finished
    rw [count] at finished
    have sound := sharing.sound r
    cases stands : state.clients r with
    | ready done input shard =>
      rw [stands] at finished
      simp only [Deployment.moves] at finished
      omega
    | inside done input shard prepared =>
      rw [stands] at finished ok
      obtain ⟨some_, ⟨_, _, _, _, passing⟩, _⟩ := ok
      have below := passing.below
      have upper := Nat.mul_le_mul_left (deployed r).run.shardCount some_
      simp only [Deployment.moves] at finished
      rw [Nat.mul_succ] at upper
      omega
    | failed done text => exact absurd stands (going done text)
    | done done =>
      rw [stands] at ok
      obtain ⟨length, picked, none_⟩ := ok
      have whole := recompute_eq_greedy model (deployed r).cfg (deployed r).whole
        sound.positive sound.first sound.ordered done.length sound.prompted
      have same := Fallible.toOption_eq_some_iff.mp (whole.symm.trans picked)
      rw [length] at same
      cases same.symm.trans picks
      refine ⟨rfl, fun key member own => ?_⟩
      have absent := none_ key.2
      rw [← own] at absent
      exact AList.lookup_eq_none.mp absent member

end Sharing

/-! ### Two generations of the model of one layer, each in two shards -/

def integerModel : LlamaArithmetic (Value Int) (List Int × Int) Int Int Int Int singleHead where
  shape := Prod.fst
  embed tensor id := .ok (tensor.2 + id)
  kernels _ := integerKernels
  decoder _ := integerDecoder
  norm _ tensor x := x * tensor.2
  lmHead tensor x := x + tensor.2
  argmax
    | .logits n => n % 7
    | _ => 0
  validate _ := .ok ()

/-- Rows travel as a list of integers. -/
def packRows (items : List (Item Int Int)) : Dict Int :=
  [("rows", .ofInts (items.map fun
    | .hidden row => row
    | _ => 0))]

def integerLibrary : JsonLibrary Int Int where
  float v := .ok v
  widened v := v.toInt.map fun n => (n * 2667).tdiv 1000
  modulo n v := v.toInt.map fun m => (n : Int).fmod m
  loads _ := .error "Expecting value: line 1 column 1 (char 0)"
  tensor
    | .dict [(_, .list items)] => items.mapM Value.toInt
    | _ => .error "TensorPayload.from_dict: expected a dict"

theorem integer_wire : Deployment.Wire integerModel integerLibrary packRows := by
  intro rows _ _
  have unpacked : (rows.map (Value.int (F := Int))).mapM Value.toInt = .ok rows := by
    rw [Fallible.mapM_eq_ok_iff, List.forall₂_map_left_iff, List.forall₂_same]
    exact fun n _ => rfl
  simp only [packRows, integerLibrary, Value.ofInts, List.map_map]
  exact unpacked

def tinyDirectory : ModelSource (Value Int) (List Int × Int) where
  toWeightsSource := tinyCheckpoint.source
  getConfig := .ok (tinyConfig.map fun (key, n) => (key, .int n))
  getTokenizerPath := .ok none

/-- A tokenizer that has the characters as tokens. -/
def tinyWorld : World (Value Int) (List Int × Int) where
  parseFileUri uri := .ok (String.ofList (uri.toList.drop 7))
  parseHfUri _ := .error "not an hf:// URI"
  localWeightsSource dirPath :=
    if dirPath = "/weights" then .ok tinyDirectory else .error ("weights directory not found: " ++ dirPath)
  hfWeightsSource _ _ := .error "no network"
  encode _ prompt := .ok (prompt.toList.map fun c => (c.toNat : Int))
  decode _ _ := .error "no tokenizer"
  initial _ := ([], 7)

/-- The first of the two shards has no layers. -/
def tinyGeneration (second : Bool) : Generation Int where
  runId := if second then "b" else "a"
  weightsUri := "file:///weights"
  config := []
  tokenizerUri := "file:///tokenizer.json"
  prompt := if second then "no" else "yes"
  shardCount := 2
  boundary i := i - 1
  nTokens := 2

def tinyDeployment (second : Bool) : Deployment Int (List Int × Int) where
  run := tinyGeneration second
  source := tinyDirectory
  sourceConfig := tinyConfig.map fun (key, n) => (key, .int n)
  checkpoint := tinyCheckpoint
  cfg := { tinyParsed with rmsNormEps := none, ropeTheta := none }
  whole q := tinyCheckpoint.tensor (hfName q)
  prompt := (tinyGeneration second).prompt.toList.map fun c => (c.toNat : Int)

theorem tiny_sound (second : Bool) : (tinyDeployment second).Sound integerModel integerLibrary tinyWorld where
  accepted := by cases second <;> decide +kernel
  opened := by cases second <;> rfl
  configured := rfl
  weights := rfl
  created := by cases second <;> rfl
  untied := rfl
  shaped := by
    have shapes : ∀ key ∈ tinyCheckpoint.keys, ∀ q ∈ ownParams (wholeSpec 1) false,
        target (wholeSpec 1) false key = some q → (tinyCheckpoint.tensor key).1 = paramShape tinyParsed q := by
      decide +kernel
    intro key member q owned named
    have same := shapes key member q owned ((wanted_target_iff owned).mpr named).2
    cases q <;> exact same
  values := by
    have last : ∀ q ∈ ownParams (wholeSpec 1) false,
        some (tinyCheckpoint.tensor (hfName q)) = (tinyCheckpoint.tensors 1 false q).getLast? := by
      decide +kernel
    exact last
  positive := Nat.le_succ 1
  first := rfl
  ordered i _ := Nat.sub_le_sub_right (Nat.le_succ i) 1
  tokenized := by cases second <;> rfl
  prompted := by cases second <;> decide

theorem tiny_sharing : Sharing integerModel integerLibrary packRows tinyWorld 4 tinyDeployment where
  sound := tiny_sound
  wire := integer_wire
  distinct := by decide
  room := by decide

/-- The steps of one tiny generation after another; module after module starts from other
initial values. -/
def tinyStep : Runs.Step (System Bool Int (List Int × Int) Int singleHead) Bool Unit :=
  clientStep integerModel integerLibrary packRows tinyWorld 4 (fun _ pass shard _ => ([], (7 * pass + shard : Nat)))
    fun second => (tinyDeployment second).run

/-- Every call of each overlaps with a call of the other. -/
def overlapping : List Bool :=
  [false, true, true, false, false, true, true, false, false, false, true, true, true, false, false, true, false, true]

theorem overlapping_runs : ∃ state shown, Runs.run tinyStep {} overlapping = some (state, shown) := by
  have runs : (Runs.run tinyStep {} overlapping).isSome := by decide +kernel
  obtain ⟨⟨state, shown⟩, ran⟩ := Option.isSome_iff_exists.mp runs
  exact ⟨state, shown, ran⟩

theorem generations_match_single_module_overlapping : ∃ state shown,
    Runs.run tinyStep {} overlapping = some (state, shown) ∧
      greedy integerModel.argmax ((tinyDeployment true).single integerModel) (state.clients true).tokens.length
        [110, 111] = .ok (state.clients true).tokens := by
  obtain ⟨state, shown, ran⟩ := overlapping_runs
  exact ⟨state, shown, ran, generations_match_single_module tiny_sharing ran true⟩

theorem generation_completes_overlapping : ∃ state shown,
    Runs.run tinyStep {} overlapping = some (state, shown) ∧ state.clients true = .done [5, 4] ∧
      ∀ key ∈ state.kv.cache, key.1 ≠ "b" := by
  obtain ⟨state, shown, ran⟩ := overlapping_runs
  have picks : greedy integerModel.argmax ((tinyDeployment true).single integerModel) 2 (tinyDeployment true).prompt =
      .ok [5, 4] := by
    decide +kernel
  have completed := generation_completes tiny_sharing ran true picks fun _ _ _ => rfl
  exact ⟨state, shown, ran, completed.2 (by decide)⟩

end ComputeCloudNode.LLMShardExecutor
