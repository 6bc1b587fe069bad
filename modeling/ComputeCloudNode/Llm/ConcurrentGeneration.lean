import Mathlib.Algebra.BigOperators.Group.Finset.Basic
import Mathlib.Algebra.Order.BigOperators.Group.Finset
import Mathlib.Data.Finset.Card
import ComputeCloudNode.Lib.Runs
import ComputeCloudNode.Llm.CallPhases
import ComputeCloudNode.Llm.GenerationPayloads

/-! Generations that share an executor. Each runs the loop of `generate_demo.main`: pass
after pass it calls `execute` for one shard after the other, and at the end it evicts its
run. A step begins or ends a call, so the calls of different generations interleave and
overlap in every order. -/
namespace ComputeCloudNode.LLMShardExecutor
open ModelConfig ModelShard Weights

variable {ι F Tensor Row Head Score Logits : Type} {layout : HeadLayout}

/-- Where the loop of a generation stands. -/
inductive Client (F Tensor Head : Type) (layout : HeadLayout)
  | ready (tokens : List Int) (input : StageInput F) (shard : Nat)
  | inside (tokens : List Int) (input : StageInput F) (shard : Nat)
      (prepared : Except String (Prepared (Value F) Tensor (Kv layout Head)))
  | failed (tokens : List Int) (text : String)
  | done (tokens : List Int)

/-- `sharded_tokens`. -/
def Client.tokens : Client F Tensor Head layout → List Int
  | .ready tokens _ _ | .inside tokens _ _ _ | .failed tokens _ | .done tokens => tokens

/-- The cache of the executor and the generations that use it. -/
structure System (ι F Tensor Head : Type) (layout : HeadLayout) where
  kv : KvState (List (Kv layout Head)) := {}
  clients : ι → Client F Tensor Head layout := fun _ => .ready [] .prompt 0

/-- What the loop does with the answer to a call. -/
def receive (pack : List (Item Row Logits) → Dict F) (tokens : List Int) (shard : Nat) :
    Except String (Output Row Logits) → Client F Tensor Head layout
  | .error text => .failed tokens text
  | .ok (.hidden output _) => .ready tokens (.output (pack output)) (shard + 1)
  | .ok (.final _ tokenId _ _) => .ready (tokens ++ [tokenId]) (.nextToken tokenId) 0

section Step

variable [DecidableEq ι]

def System.move (state : System ι F Tensor Head layout) (r : ι) (kv : KvState (List (Kv layout Head)))
    (client : Client F Tensor Head layout) : System ι F Tensor Head layout :=
  { kv := kv, clients := Function.update state.clients r client }

variable {state : System ι F Tensor Head layout} {r : ι} {kv : KvState (List (Kv layout Head))}
  {client : Client F Tensor Head layout}

@[simp] theorem System.move_self : (state.move r kv client).clients r = client := Function.update_self ..

@[simp] theorem System.move_other {other : ι} (differs : other ≠ r) :
    (state.move r kv client).clients other = state.clients other := Function.update_of_ne differs ..

variable [PyRuntime F] (model : LlamaArithmetic (Value F) Tensor Row Head Score Logits layout) (lib : JsonLibrary F Row)
  (pack : List (Item Row Logits) → Dict F) (world : World (Value F) Tensor) (maxKvEntries : Int)

/-- One step of generation `r`. Every module that it builds starts from initial values of
its own. -/
def clientStep (initial : ι → Nat → Nat → Params Tensor) (run : ι → Generation F) :
    Runs.Step (System ι F Tensor Head layout) ι Unit := fun state r =>
  match state.clients r with
  | .ready tokens input shard =>
    if tokens.length < (run r).nTokens then
      let (kv, prepared) := beginExecute lib.conversions ((run r).payload tokens.length shard input) model.semantics
        { world with initial := initial r tokens.length shard } s!"s{shard}" state.kv
      some (state.move r kv (.inside tokens input shard prepared), ())
    else some (state.move r (state.kv.evictRunId (run r).runId).2 (.done tokens), ())
  | .inside tokens input shard prepared =>
    let (kv, outcome) := finishExecute lib.conversions ((run r).payload tokens.length shard input) model.semantics
      { world with initial := initial r tokens.length shard } maxKvEntries prepared state.kv
    some (state.move r kv (receive pack tokens shard outcome.result), ())
  | .failed _ _ | .done _ => none

variable {model lib pack world maxKvEntries} (initial : ι → Nat → Nat → Params Tensor) (run : ι → Generation F)
  {tokens : List Int} {input : StageInput F} {shard : Nat}
  {prepared : Except String (Prepared (Value F) Tensor (Kv layout Head))}

/-- A call begins. -/
theorem clientStep_begin (stands : state.clients r = .ready tokens input shard)
    (some_ : tokens.length < (run r).nTokens)
    (begun : beginExecute lib.conversions ((run r).payload tokens.length shard input) model.semantics
      { world with initial := initial r tokens.length shard } s!"s{shard}" state.kv = (kv, prepared)) :
    clientStep model lib pack world maxKvEntries initial run state r =
      some (state.move r kv (.inside tokens input shard prepared), ()) := by
  simp only [clientStep, stands, if_pos some_, begun]

/-- A call ends. -/
theorem clientStep_end {outcome : Outcome (Value F) Tensor Row (Kv layout Head) Logits}
    (stands : state.clients r = .inside tokens input shard prepared)
    (ended : finishExecute lib.conversions ((run r).payload tokens.length shard input) model.semantics
      { world with initial := initial r tokens.length shard } maxKvEntries prepared state.kv = (kv, outcome)) :
    clientStep model lib pack world maxKvEntries initial run state r =
      some (state.move r kv (receive pack tokens shard outcome.result), ()) := by
  simp only [clientStep, stands, ended]

/-- A generation with all its tokens evicts its run. -/
theorem clientStep_evict (stands : state.clients r = .ready tokens input shard)
    (full : ¬ tokens.length < (run r).nTokens) :
    clientStep model lib pack world maxKvEntries initial run state r =
      some (state.move r (state.kv.evictRunId (run r).runId).2 (.done tokens), ()) := by
  simp only [clientStep, stands, if_neg full]

/-- A generation that is neither done nor failed can move. -/
theorem clientStep_isSome (going : (∀ text, state.clients r ≠ .failed (state.clients r).tokens text) ∧
    state.clients r ≠ .done (state.clients r).tokens) :
    (clientStep model lib pack world maxKvEntries initial run state r).isSome := by
  cases stands : state.clients r with
  | ready tokens input shard =>
    by_cases some_ : tokens.length < (run r).nTokens
    · rw [clientStep_begin initial run stands some_ rfl]
      rfl
    · rw [clientStep_evict initial run stands some_]
      rfl
  | inside tokens input shard prepared =>
    rw [clientStep_end initial run stands rfl]
    rfl
  | failed tokens text =>
    rw [stands] at going
    exact absurd rfl (going.1 text)
  | done tokens =>
    rw [stands] at going
    exact absurd rfl going.2

end Step

/-! ### One generation -/

namespace Deployment

variable (model : LlamaArithmetic (Value F) Tensor Row Head Score Logits layout)
  (pack : List (Item Row Logits) → Dict F) (deployed : Deployment F Tensor)

/-- The stages of the shards, one after the other. -/
def pipeline : Resumable (List (List (Kv layout Head))) (Item Row Logits) (Item Row Logits) :=
  model.pipeline deployed.cfg deployed.whole deployed.run.shardCount deployed.run.boundary

def freshStates : List (List (Kv layout Head)) :=
  model.freshStates deployed.cfg deployed.whole deployed.run.shardCount deployed.run.boundary

/-- The state of a stage, as the executor holds it. -/
def heldAt (kv : KvState (List (Kv layout Head))) (shard : Nat) : List (Kv layout Head) :=
  (kv.cache.lookup (deployed.run.runId, (shard : Int))).getD
    (model.freshAt deployed.cfg deployed.whole deployed.run.boundary shard)

def heldStates (kv : KvState (List (Kv layout Head))) : List (List (Kv layout Head)) :=
  (List.range deployed.run.shardCount).map (deployed.heldAt model kv)

/-- These are the first tokens of the loop that starts over. -/
def Picks (tokens : List Int) : Prop :=
  (deployed.pipeline model).recompute model.argmax .token (deployed.freshStates model) tokens.length
    (deployed.prompt.map .token) = some tokens

/-- The first shards have been given this pass: the executor holds their new states and
the old states of the others, and the next shard's input is packed. -/
structure Passing (kv : KvState (List (Kv layout Head))) (tokens : List Int) (shard : Nat) (input : StageInput F)
    (states : List (List (Kv layout Head))) (feed rows : List (Item Row Logits))
    (answered : List (List (Kv layout Head))) : Prop where
  below : shard < deployed.run.shardCount
  resumed : (deployed.pipeline model).Resumed model.argmax .token (deployed.freshStates model)
    (deployed.prompt.map .token) tokens states feed
  bounded : 0 < feed.length ∧ feed.length ≤ deployed.prompt.length
  passed : (Resumable.chain ((model.stages deployed.cfg deployed.whole deployed.run.shardCount
    deployed.run.boundary).take shard)).run (states.take shard) feed = some (rows, answered)
  held : deployed.heldStates model kv = answered ++ states.drop shard
  feeds : deployed.Feeds model pack input shard tokens rows

/-- What is true of a generation between two steps. -/
def ClientOk (kv : KvState (List (Kv layout Head))) : Client F Tensor Head layout → Prop
  | .ready tokens input shard =>
    (tokens.length < deployed.run.nTokens ∨ tokens.length = deployed.run.nTokens ∧ shard = 0) ∧
      ∃ states feed rows answered, deployed.Passing model pack kv tokens shard input states feed rows answered
  | .inside tokens input shard prepared =>
    tokens.length < deployed.run.nTokens ∧
      (∃ states feed rows answered, deployed.Passing model pack kv tokens shard input states feed rows answered) ∧
      ∃ built, deployed.Builds model shard built ∧
        prepared = .ok ⟨built, tokens.length, kv.cache.lookup (deployed.run.runId, (shard : Int))⟩
  | .failed tokens _ => deployed.Picks model tokens
  | .done tokens =>
    tokens.length = deployed.run.nTokens ∧ deployed.Picks model tokens ∧
      ∀ shard, kv.cache.lookup (deployed.run.runId, shard) = none

variable {model pack deployed} {kv kv' : KvState (List (Kv layout Head))} {tokens : List Int} {shard : Nat}
  {input : StageInput F} {states answered : List (List (Kv layout Head))} {feed rows : List (Item Row Logits)}

/-- Only the entries of its own run matter to a generation. -/
theorem ClientOk.frame {client : Client F Tensor Head layout} (ok : deployed.ClientOk model pack kv client)
    (same : ∀ shard, kv'.cache.lookup (deployed.run.runId, shard) = kv.cache.lookup (deployed.run.runId, shard)) :
    deployed.ClientOk model pack kv' client := by
  have held : deployed.heldStates model kv' = deployed.heldStates model kv := by
    apply List.map_congr_left
    intro i _
    rw [heldAt, heldAt, same]
  cases client with
  | ready tokens input shard =>
    obtain ⟨bound, states, feed, rows, answered, passing⟩ := ok
    exact ⟨bound, states, feed, rows, answered, { passing with held := held.trans passing.held }⟩
  | inside tokens input shard prepared =>
    obtain ⟨bound, ⟨states, feed, rows, answered, passing⟩, built, builds, same'⟩ := ok
    refine ⟨bound, ⟨states, feed, rows, answered, { passing with held := held.trans passing.held }⟩, built, builds, ?_⟩
    rw [same, same']
  | failed tokens text => exact ok
  | done tokens =>
    obtain ⟨length, picks, none_⟩ := ok
    exact ⟨length, picks, fun shard => (same shard).trans (none_ shard)⟩

variable (model kv) in
theorem heldStates_get {i : Nat} (below : i < deployed.run.shardCount) :
    (deployed.heldStates model kv)[i]? = some (deployed.heldAt model kv i) := by
  rw [heldStates, List.getElem?_map, List.getElem?_range below]
  rfl

theorem heldStates_length : (deployed.heldStates model kv).length = deployed.run.shardCount := by
  rw [heldStates, List.length_map, List.length_range]

/-- Storing the new state of a shard. -/
theorem heldStates_put {kvs : List (Kv layout Head)}
    (new : kv'.cache.lookup (deployed.run.runId, (shard : Int)) = some kvs)
    (others : ∀ other : Int, other ≠ shard →
      kv'.cache.lookup (deployed.run.runId, other) = kv.cache.lookup (deployed.run.runId, other)) :
    deployed.heldStates model kv' = (deployed.heldStates model kv).set shard kvs := by
  apply List.ext_getElem?
  intro i
  by_cases below : i < deployed.run.shardCount
  · rw [heldStates_get model kv' below, List.getElem?_set]
    by_cases same : shard = i
    · subst same
      rw [if_pos rfl, if_pos (heldStates_length.symm ▸ below), heldAt, new, Option.getD_some]
    · rw [if_neg same, heldStates_get model kv below, heldAt, heldAt, others i (by omega)]
  · have outside : deployed.run.shardCount ≤ i := Nat.le_of_not_lt below
    rw [List.getElem?_eq_none (heldStates_length.symm ▸ outside), List.getElem?_eq_none]
    rw [List.length_set, heldStates_length]
    exact outside

section Pass

variable (passing : deployed.Passing model pack kv tokens shard input states feed rows answered)
include passing

theorem Passing.states_valid : List.Forall₂ (fun stage state => stage.Valid state)
    (model.stages deployed.cfg deployed.whole deployed.run.shardCount deployed.run.boundary) states :=
  Resumable.chain_valid.mp (passing.resumed.valid pipeline_valid)

theorem Passing.states_length : states.length = deployed.run.shardCount := by
  rw [← passing.states_valid.length_eq, LlamaArithmetic.stages, List.length_map, List.length_range]

theorem Passing.answered_length : answered.length = shard := by
  have valid := Resumable.valid_run _ (Resumable.chain_valid.mpr (List.forall₂_take shard passing.states_valid))
    passing.passed
  have length := (Resumable.chain_valid.mp valid).length_eq
  rw [List.length_take, passing.states_valid.length_eq, passing.states_length, Nat.min_eq_left
    (Nat.le_of_lt passing.below)] at length
  exact length.symm

/-- The executor still holds the old state of the next shard. -/
theorem Passing.state_get : states[shard]? = some (deployed.heldAt model kv shard) := by
  have held := heldStates_get model kv passing.below
  rw [passing.held, List.getElem?_append_right (Nat.le_of_eq passing.answered_length), passing.answered_length,
    Nat.sub_self, List.getElem?_drop, Nat.add_zero] at held
  exact held

theorem Passing.state_valid :
    (model.stageAt deployed.cfg deployed.whole deployed.run.shardCount deployed.run.boundary shard).Valid
      (deployed.heldAt model kv shard) := by
  have valid := passing.states_valid
  rw [List.forall₂_iff_get] at valid
  have below : shard < states.length := passing.states_length.symm ▸ passing.below
  have here := valid.2 shard (valid.1.symm ▸ below) below
  have stage := List.getElem_eq_iff (h := valid.1.symm ▸ below) |>.mpr
    (stages_get model deployed.cfg deployed.whole deployed.run.boundary passing.below)
  have state := List.getElem_eq_iff (h := below) |>.mpr passing.state_get
  rwa [List.get_eq_getElem, List.get_eq_getElem, stage, state] at here

theorem Passing.rows_length : rows.length = feed.length :=
  Resumable.length_run _ (Resumable.chain_valid.mpr (List.forall₂_take shard passing.states_valid)) passing.passed

/-- The next shard goes on from where its own passes ended. -/
theorem Passing.chain_succ :
    (Resumable.chain ((model.stages deployed.cfg deployed.whole deployed.run.shardCount
        deployed.run.boundary).take (shard + 1))).run (states.take (shard + 1)) feed =
      ((model.stageAt deployed.cfg deployed.whole deployed.run.shardCount deployed.run.boundary shard).run
        (deployed.heldAt model kv shard) rows).map fun read => (read.1, answered ++ [read.2]) := by
  rw [Resumable.chain_take_succ (stages_get _ _ _ _ passing.below) passing.state_get, passing.passed, Option.bind_some]

/-- If the next shard fails, the loop that starts over fails in this pass. -/
theorem Passing.stuck
    (failed : (model.stageAt deployed.cfg deployed.whole deployed.run.shardCount deployed.run.boundary shard).run
      (deployed.heldAt model kv shard) rows = none) :
    (deployed.pipeline model).recompute model.argmax .token (deployed.freshStates model) (tokens.length + 1)
      (deployed.prompt.map .token) = none := by
  refine passing.resumed.stuck pipeline_valid ?_
  apply Resumable.chain_take_none (i := shard + 1)
  rw [passing.chain_succ, failed, Option.map_none]

variable {output : List (Item Row Logits)} {kvs : List (Kv layout Head)}
  (ran : (model.stageAt deployed.cfg deployed.whole deployed.run.shardCount deployed.run.boundary shard).run
    (deployed.heldAt model kv shard) rows = some (output, kvs))
  (new : kv'.cache.lookup (deployed.run.runId, (shard : Int)) = some kvs)
  (others : ∀ other : Int, other ≠ shard →
    kv'.cache.lookup (deployed.run.runId, other) = kv.cache.lookup (deployed.run.runId, other))
include ran new others

omit ran in
theorem Passing.held_succ : deployed.heldStates model kv' = (answered ++ [kvs]) ++ states.drop (shard + 1) := by
  have below : shard < states.length := passing.states_length.symm ▸ passing.below
  rw [heldStates_put new others, passing.held, List.set_append_right _ _ (Nat.le_of_eq passing.answered_length),
    passing.answered_length, Nat.sub_self, List.drop_eq_getElem_cons below, List.set_cons_zero, List.append_assoc]
  rfl

/-- The next shard is given its answer. -/
theorem Passing.later (inner : shard + 1 < deployed.run.shardCount) {input' : StageInput F}
    (feeds : deployed.Feeds model pack input' (shard + 1) tokens output) :
    deployed.Passing model pack kv' tokens (shard + 1) input' states feed output (answered ++ [kvs]) where
  below := inner
  resumed := passing.resumed
  bounded := passing.bounded
  passed := by rw [passing.chain_succ, ran, Option.map_some]
  held := passing.held_succ new others
  feeds := feeds

/-- After the last shard the next pass begins with the token it picks. -/
theorem Passing.final (last : shard + 1 = deployed.run.shardCount) {end_ : Item Row Logits}
    (some_ : output.getLast? = some end_) :
    deployed.Passing model pack kv' (tokens ++ [model.argmax end_]) 0 (.nextToken (model.argmax end_))
      (answered ++ [kvs]) [.token (model.argmax end_)] [.token (model.argmax end_)] [] where
  below := by omega
  resumed := by
    have stages : (model.stages deployed.cfg deployed.whole deployed.run.shardCount
        deployed.run.boundary).length ≤ shard + 1 := by
      rw [LlamaArithmetic.stages, List.length_map, List.length_range]
      exact Nat.le_of_eq last.symm
    have all := passing.chain_succ
    rw [ran, Option.map_some, List.take_of_length_le stages,
      List.take_of_length_le (Nat.le_of_eq (passing.states_length.trans last.symm))] at all
    exact passing.resumed.next pipeline_valid all some_
  bounded := ⟨Nat.one_pos, passing.bounded.1.trans_le passing.bounded.2⟩
  passed := rfl
  held := by
    rw [passing.held_succ new others, List.drop_eq_nil_of_le (Nat.le_of_eq (passing.states_length.trans last.symm)),
      List.append_nil]
    rfl
  feeds := .nextToken (List.append_ne_nil_of_right_ne_nil _ (List.cons_ne_nil _ _))

end Pass

end Deployment

end ComputeCloudNode.LLMShardExecutor
