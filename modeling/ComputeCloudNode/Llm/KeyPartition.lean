import ComputeCloudNode.Llm.ShardedForward

/-! The keys that the shards of a partition load. Whatever is among the keys of a
checkpoint, every occurrence of a key that the whole model loads is loaded by one shard,
and the shards load nothing else. -/
namespace ComputeCloudNode.Weights
open ModelConfig

variable {N L : Nat} {b : Nat → Nat} {key : String} {n i j : Nat} {allKeys : List String}

/-- The keys at some positions, in the order of the list. -/
def atPositions (allKeys : List String) (chosen : Nat → Bool) : List String :=
  (allKeys.zipIdx.filter fun entry => chosen entry.2).map Prod.fst

theorem atPositions_sublist (allKeys : List String) (chosen : Nat → Bool) :
    (atPositions allKeys chosen).Sublist allKeys := by
  have kept : (atPositions allKeys chosen).Sublist (allKeys.zipIdx.map Prod.fst) := List.filter_sublist.map Prod.fst
  rwa [List.zipIdx_map_fst] at kept

/-- Keys that are filtered by their text are those at the positions where such a key stands. -/
theorem filter_eq_atPositions (allKeys : List String) (keep : String → Bool) :
    allKeys.filter keep = atPositions allKeys fun position => allKeys[position]?.any keep := by
  have entries : allKeys.zipIdx.filter (fun entry => allKeys[entry.2]?.any keep) =
      allKeys.zipIdx.filter (keep ∘ Prod.fst) := by
    apply List.filter_congr
    intro entry member
    rw [List.mem_zipIdx_iff_getElem?.mp member]
    rfl
  calc
    _ = (allKeys.zipIdx.map Prod.fst).filter keep := by rw [List.zipIdx_map_fst]
    _ = (allKeys.zipIdx.filter (keep ∘ Prod.fst)).map Prod.fst := List.filter_map
    _ = _ := by rw [atPositions, entries]

/-- A layer below the last boundary lies between two neighbouring ones. -/
theorem layer_between (first : b 0 = 0) (below : n < b N) : ∃ i < N, b i ≤ n ∧ n < b (i + 1) := by
  induction N with
  | zero =>
    rw [first] at below
    exact absurd below (Nat.not_lt_zero n)
  | succ N ih =>
    by_cases earlier : n < b N
    · obtain ⟨i, inside, low, high⟩ := ih earlier
      exact ⟨i, by omega, low, high⟩
    · exact ⟨N, by omega, not_lt.mp earlier, below⟩

theorem layer_between_unique (ordered : ∀ i < N, b i ≤ b (i + 1)) (iBelow : i < N) (jBelow : j < N)
    (iLow : b i ≤ n) (iHigh : n < b (i + 1)) (jLow : b j ≤ n) (jHigh : n < b (j + 1)) : i = j := by
  rcases lt_trichotomy i j with before | same | after
  · have : b (i + 1) ≤ b j := boundary_le ordered before jBelow.le
    omega
  · exact same
  · have : b (j + 1) ≤ b i := boundary_le ordered after iBelow.le
    omega

theorem wanted_layer {start stop : Nat} {isFirst isLast : Bool} {rest : List Char}
    (read : layerKey key = some (n, rest)) :
    wanted (rangeSpec start stop isFirst isLast) key ↔ start ≤ n ∧ n < stop := by
  simp [wanted, read, rangeSpec]

/-- The whole model loads what some shard loads. -/
theorem wanted_whole_iff (positive : 1 ≤ N) (first : b 0 = 0) (last : b N = L)
    (ordered : ∀ i < N, b i ≤ b (i + 1)) :
    wanted (wholeSpec L) key ↔ ∃ i < N, wanted (partitionSpec N b i) key := by
  have whole : wholeSpec L = rangeSpec 0 L true true := rfl
  cases read : layerKey key with
  | some found =>
    obtain ⟨n, rest⟩ := found
    simp only [whole, partitionSpec, wanted_layer read]
    constructor
    · rintro ⟨_, below⟩
      exact layer_between first (last ▸ below)
    · rintro ⟨i, inside, _, high⟩
      have : b (i + 1) ≤ b N := boundary_le ordered inside (Nat.le_refl N)
      exact ⟨Nat.zero_le n, by omega⟩
  | none =>
    simp only [wanted_other read]
    constructor
    · rintro (⟨_, embeds⟩ | ⟨_, heads⟩)
      · exact ⟨0, positive, .inl ⟨rfl, embeds⟩⟩
      · exact ⟨N - 1, by omega, .inr ⟨decide_eq_true (by omega), heads⟩⟩
    · rintro ⟨i, _, ⟨_, embeds⟩ | ⟨_, heads⟩⟩
      · exact .inl ⟨rfl, embeds⟩
      · exact .inr ⟨rfl, heads⟩

/-- No two shards load the same key. -/
theorem wanted_unique (ordered : ∀ i < N, b i ≤ b (i + 1)) (iBelow : i < N) (jBelow : j < N)
    (iWants : wanted (partitionSpec N b i) key) (jWants : wanted (partitionSpec N b j) key) : i = j := by
  cases read : layerKey key with
  | some found =>
    obtain ⟨n, rest⟩ := found
    rw [partitionSpec, wanted_layer read] at iWants jWants
    exact layer_between_unique ordered iBelow jBelow iWants.1 iWants.2 jWants.1 jWants.2
  | none =>
    have embeds : ∀ {i}, (partitionSpec N b i).isFirst ↔ i = 0 := decide_eq_true_iff
    have heads : ∀ {i}, (partitionSpec N b i).isLast ↔ i + 1 = N := decide_eq_true_iff
    simp only [wanted_other read, embeds, heads] at iWants jWants
    rcases iWants with ⟨rfl, rfl⟩ | ⟨iLast, iHeads⟩
    · rcases jWants with ⟨rfl, _⟩ | ⟨_, impossible⟩
      · rfl
      · simp at impossible
    · rcases jWants with ⟨rfl, rfl⟩ | ⟨jLast, _⟩
      · simp at iHeads
      · omega

/-- The shard that loads a key, if any. -/
def ownerOf (N : Nat) (b : Nat → Nat) (key : String) : Option Nat :=
  (List.range N).find? fun i => wanted (partitionSpec N b i) key

theorem ownerOf_eq_some_iff (ordered : ∀ i < N, b i ≤ b (i + 1)) :
    ownerOf N b key = some i ↔ i < N ∧ wanted (partitionSpec N b i) key := by
  unfold ownerOf
  constructor
  · intro found
    have wants := List.find?_some found
    exact ⟨List.mem_range.mp (List.mem_of_find?_eq_some found), wants⟩
  · rintro ⟨below, wants⟩
    cases found : (List.range N).find? fun i => wanted (partitionSpec N b i) key with
    | none =>
      have unwanted := List.find?_eq_none.mp found i (List.mem_range.mpr below)
      exact absurd wants unwanted
    | some j =>
      have jBelow := List.mem_range.mp (List.mem_of_find?_eq_some found)
      have jWants := List.find?_some found
      rw [wanted_unique ordered below jBelow wants jWants]

theorem wanted_eq_owns (ordered : ∀ i < N, b i ≤ b (i + 1)) (below : i < N) :
    wanted (partitionSpec N b i) key = decide (ownerOf N b key = some i) := by
  apply Bool.eq_iff_iff.mpr
  rw [decide_eq_true_iff, ownerOf_eq_some_iff ordered]
  exact (and_iff_right below).symm

theorem wanted_whole_eq_owned (positive : 1 ≤ N) (first : b 0 = 0) (last : b N = L)
    (ordered : ∀ i < N, b i ≤ b (i + 1)) : wanted (wholeSpec L) key = (ownerOf N b key).isSome := by
  apply Bool.eq_iff_iff.mpr
  simp only [wanted_whole_iff positive first last ordered, Option.isSome_iff_exists, ownerOf_eq_some_iff ordered]

/-- Each shard loads a sublist of the keys, and there is one owner for every position
whose key the whole model loads: a shard loads what stands at the positions that it owns. -/
theorem keys_partitioned (allKeys : List String) (positive : 1 ≤ N) (first : b 0 = 0) (last : b N = L)
    (ordered : ∀ i < N, b i ≤ b (i + 1)) :
    (∀ i < N, (keysForShard allKeys (partitionSpec N b i)).Sublist allKeys) ∧
      ∃ owner : Nat → Option Nat, (∀ position i, owner position = some i → i < N) ∧
        (keysForShard allKeys (wholeSpec L) = atPositions allKeys fun position => (owner position).isSome) ∧
        ∀ i < N, keysForShard allKeys (partitionSpec N b i) =
          atPositions allKeys fun position => owner position = some i := by
  have shard : ∀ i < N, keysForShard allKeys (partitionSpec N b i) =
      atPositions allKeys fun position => allKeys[position]?.bind (ownerOf N b) = some i := by
    intro i below
    rw [keysForShard_eq_filter, filter_eq_atPositions]
    congr 1
    funext position
    cases allKeys[position]? with
    | none => rfl
    | some key => exact wanted_eq_owns ordered below
  have whole : keysForShard allKeys (wholeSpec L) =
      atPositions allKeys fun position => (allKeys[position]?.bind (ownerOf N b)).isSome := by
    rw [keysForShard_eq_filter, filter_eq_atPositions]
    congr 1
    funext position
    cases allKeys[position]? with
    | none => rfl
    | some key => exact wanted_whole_eq_owned positive first last ordered
  refine ⟨fun i below => ?_, fun position => allKeys[position]?.bind (ownerOf N b), ?_, whole, shard⟩
  · rw [shard i below]
    exact atPositions_sublist allKeys _
  · intro position i owned
    obtain ⟨key, _, owner⟩ := Option.bind_eq_some_iff.mp owned
    exact ((ownerOf_eq_some_iff ordered).mp owner).1

/-- Keys of three layers and of none, one of them twice. -/
def someKeys : List String :=
  ["lm_head.weight", "model.layers.1.w", "model.layers.01.w", "model.embed_tokens.weight", "model.layers.1.w",
    "model.layers.7.w", "model.layers.w"]

theorem keys_partitioned_two :
    (∀ i < 2, (keysForShard someKeys (partitionSpec 2 (fun i => i) i)).Sublist someKeys) ∧
      ∃ owner : Nat → Option Nat, (∀ position i, owner position = some i → i < 2) ∧
        (keysForShard someKeys (wholeSpec 2) = atPositions someKeys fun position => (owner position).isSome) ∧
        ∀ i < 2, keysForShard someKeys (partitionSpec 2 (fun i => i) i) =
          atPositions someKeys fun position => owner position = some i :=
  keys_partitioned someKeys (by decide) rfl rfl (by decide)

end ComputeCloudNode.Weights
