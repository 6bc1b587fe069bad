import ComputeCloudNode.PipelineExecutor

/-! The local runner computes the reference: its activations after `i` shards are those
of the layers up to the `i`-th bound. Payloads out of order are refused before any
shard runs; the numbers in them are compared after `int`, which also reads texts and cuts
off fractions. -/
namespace ComputeCloudNode.PipelineExecutor

variable {F : Type} [PyRuntime F] {hash : List UInt8 → List UInt8} {modelName : String} {values : List Int}
  {payloads : List (Dict F)} {bounds : Nat → Nat}

/-- The payload at position `i` of `count` says so, as far as `int` can tell. -/
def Numbered (count i : Nat) (payload : Dict F) : Prop :=
  numbered payload "shard_index" = .ok (i : Int) ∧ numbered payload "shard_count" = .ok (count : Int)

theorem checkOrder_ok_iff {count i : Nat} : checkOrder count i payloads = .ok () ↔
    ∀ k (inRange : k < payloads.length), Numbered count (i + k) payloads[k] := by
  induction payloads generalizing i with
  | nil => simp [checkOrder]
  | cons payload rest ih =>
    have first : checkOrder count i (payload :: rest) = .ok () ↔
        Numbered count i payload ∧ checkOrder count (i + 1) rest = .ok () := by
      rw [checkOrder, Numbered]
      cases index : numbered payload "shard_index" with
      | error text => simp [bind, Except.bind]
      | ok n =>
        by_cases same : n = i
        · cases total : numbered payload "shard_count" with
          | error text => simp [same, bind, Except.bind]
          | ok m =>
            by_cases same' : m = count
            · simp [same, same', bind, Except.bind]
            · simp [same, same', bind, Except.bind, throw, throwThe, MonadExceptOf.throw]
        · simp [same, bind, Except.bind, throw, throwThe, MonadExceptOf.throw]
    rw [first, ih]
    constructor
    · rintro ⟨here, later⟩ k inRange
      cases k with
      | zero => exact here
      | succ k =>
        have next := later k (Nat.lt_of_succ_lt_succ inRange)
        rw [Nat.add_right_comm] at next
        exact next
    · intro every
      refine ⟨every 0 (Nat.zero_lt_succ _), fun k inRange => ?_⟩
      have next := every (k + 1) (Nat.succ_lt_succ inRange)
      rw [← Nat.add_assoc, Nat.add_right_comm] at next
      exact next

variable (hash values) in
/-- The shards from the `i`-th on, given the activations of the layers before. -/
theorem runShards_eq_reference (named : modelName ≠ "") {count i : Nat} (last : Option ShardOutput)
    (remaining : i + payloads.length = count)
    (ended : payloads = [] → last = some
      { outputActivations := runLayers hash modelName 0 (bounds i) values, shardIndex := i - 1, isFinal := true })
    (ordered : ∀ k < count, bounds k ≤ bounds (k + 1))
    (shards : ∀ k (inRange : k < payloads.length),
      ShardPayload modelName (bounds (i + k)) (bounds (i + k + 1)) (i + k : Nat) count payloads[k]) :
    runShards hash i payloads (runLayers hash modelName 0 (bounds i) values) last =
      (List.range' i payloads.length, .ok
        { outputActivations := runLayers hash modelName 0 (bounds count) values
          shardIndex := count - 1
          isFinal := true }) := by
  induction payloads generalizing i last with
  | nil =>
    rw [List.length_nil, Nat.add_zero] at remaining
    rw [runShards, ended rfl, remaining]
    rfl
  | cons payload rest ih =>
    rw [List.length_cons] at remaining
    have within : i < count := by
      omega
    have grows : bounds i ≤ bounds (i + 1) := ordered i within
    have ran := execute_shard hash (runLayers hash modelName 0 (bounds i) values) (shards 0 (Nat.zero_lt_succ _)) named
      (Int.natCast_nonneg _) (Int.ofNat_le.mpr grows)
    have layers : runLayers hash modelName (bounds i) (bounds (i + 1)) (runLayers hash modelName 0 (bounds i) values) =
        runLayers hash modelName 0 (bounds (i + 1)) values :=
      runLayers_append (Int.natCast_nonneg _) (Int.ofNat_le.mpr grows)
    simp only [Nat.add_zero, List.getElem_cons_zero, layers] at ran
    rw [runShards, ran]
    dsimp only
    rw [ih _ (by omega) ?_ (fun k inRange => ?_)]
    · rfl
    · intro empty
      rw [empty, List.length_nil] at remaining
      have position : ((i + 1 : Nat) : Int) - 1 = i := by
        omega
      have final : (i : Int) = count - 1 := by
        omega
      rw [Nat.add_zero, position, decide_eq_true final]
    · have next := shards (k + 1) (Nat.succ_lt_succ inRange)
      have shifted : i + (k + 1) = i + 1 + k := by
        omega
      rw [shifted] at next
      exact next

/-- The payload is numbered as its fields say. -/
theorem ShardPayload.numbered {startLayer endLayer : Int} {count i : Nat} {payload : Dict F}
    (shard : ShardPayload modelName startLayer endLayer i count payload) : Numbered count i payload := by
  unfold Numbered PipelineExecutor.numbered
  rw [shard.index, shard.count]
  exact ⟨rfl, rfl⟩

/-- Shards that partition the layers give what all layers give. Payloads that do not
number themselves in order are refused, and no shard runs. -/
theorem local_pipeline (hash : List UInt8 → List UInt8) (values : List Int) (payloads : List (Dict F)) :
    (∀ modelName ≠ "", ∀ bounds : Nat → Nat, payloads ≠ [] → bounds 0 = 0 →
      (∀ i < payloads.length, bounds i ≤ bounds (i + 1)) →
      (∀ i (inRange : i < payloads.length),
        ShardPayload modelName (bounds i) (bounds (i + 1)) i payloads.length payloads[i]) →
      run hash payloads values = (List.range payloads.length, .ok
        { outputActivations := runReference hash modelName (bounds payloads.length) values
          shardIndex := payloads.length - 1
          isFinal := true })) ∧
    ((payloads = [] ∨ ∃ i, ∃ inRange : i < payloads.length, ¬ Numbered payloads.length i payloads[i]) →
      ∃ text, run hash payloads values = ([], .error text)) := by
  constructor
  · intro modelName named bounds nonempty start ordered shards
    have inOrder : checkOrder payloads.length 0 payloads = .ok () := by
      apply checkOrder_ok_iff.mpr
      intro k inRange
      rw [Nat.zero_add]
      exact (shards k inRange).numbered
    have ran := runShards_eq_reference hash values named (i := 0) none (Nat.zero_add _)
      (fun empty => absurd empty nonempty) ordered (fun k inRange => by
        rw [Nat.zero_add]
        exact shards k inRange)
    rw [start, Nat.cast_zero, runLayers_self, ← List.range_eq_range'] at ran
    rw [run, if_neg (by simpa using nonempty), inOrder]
    exact ran
  · rintro (rfl | ⟨i, inRange, misnumbered⟩)
    · exact ⟨_, rfl⟩
    · have nonempty : ¬ payloads.isEmpty := by
        intro empty
        rw [List.isEmpty_iff.mp empty] at inRange
        cases inRange
      rw [run, if_neg nonempty]
      cases checked : checkOrder payloads.length 0 payloads with
      | error text => exact ⟨text, rfl⟩
      | ok done =>
        have every := checkOrder_ok_iff.mp checked i inRange
        rw [Nat.zero_add] at every
        exact absurd every misnumbered

/-! ### Two shards, the second of them empty -/

def toyPayload (startLayer endLayer shardIndex : Int) : Dict Int :=
  [("model_name", .str "toy"), ("start_layer", .int startLayer), ("end_layer", .int endLayer),
    ("shard_index", .int shardIndex), ("shard_count", .int 2), ("input_activations", .null)]

theorem local_pipeline_two :
    run Sha256.digest [toyPayload 0 2 0, toyPayload 2 2 1] [5, -3] =
        ([0, 1], .ok { outputActivations := runReference Sha256.digest "toy" 2 [5, -3]
                       shardIndex := 1
                       isFinal := true }) ∧
      ∃ text, run Sha256.digest [toyPayload 2 2 1, toyPayload 0 2 0] [5, -3] = ([], .error text) := by
  constructor
  · refine (local_pipeline Sha256.digest [5, -3] [toyPayload 0 2 0, toyPayload 2 2 1]).1 "toy" (by decide)
      (fun i => if i = 0 then 0 else 2) (by simp) rfl (fun i inRange => ?_) (fun i inRange => ?_)
    · split <;> simp
    · obtain rfl | rfl : i = 0 ∨ i = 1 := by
        have small : i < 2 := inRange
        omega
      · exact ⟨rfl, rfl, rfl, rfl, rfl⟩
      · exact ⟨rfl, rfl, rfl, rfl, rfl⟩
  · refine (local_pipeline Sha256.digest [5, -3] [toyPayload 2 2 1, toyPayload 0 2 0]).2 (.inr ⟨0, by decide, ?_⟩)
    rintro ⟨index, _⟩
    exact absurd index (by decide +kernel)

/-- A shard that is numbered by a text. -/
def textualPayload : Dict Int :=
  [("model_name", .str "toy"), ("start_layer", .int 0), ("end_layer", .int 2), ("shard_index", .str "0"),
    ("shard_count", .int 1)]

/-- The text is not the number 0, and the shard is executed all the same. -/
theorem textual_index_executed :
    textualPayload.lookup "shard_index" ≠ some (.int 0) ∧
      run Sha256.digest [textualPayload] [5, -3] =
        ([0], .ok { outputActivations := [719227808, 554759087], shardIndex := 0, isFinal := true }) := by
  constructor
  · have text : textualPayload.lookup "shard_index" = some (.str "0") := rfl
    rw [text]
    simp
  · decide +kernel

end ComputeCloudNode.PipelineExecutor
