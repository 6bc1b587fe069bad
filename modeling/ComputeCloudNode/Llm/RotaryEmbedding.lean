import Mathlib.Algebra.BigOperators.Group.List.Basic
import Mathlib.Algebra.Group.Even
import Mathlib.Tactic.LinearCombination
import Mathlib.Tactic.Ring
import ComputeCloudNode.Llm.ModelShard

/-! The rotary embedding of `llm/model_shard.py` over any commutative ring. The element
`d` of a head and the element `d + head_dim / 2` are turned together by the angle of their
frequency at the position, so the product of a query and a key depends on how far apart
they are, not on where. -/
namespace ComputeCloudNode.ModelShard

universe u

/-- The cosine and the sine of `position * inv_freq[frequency]`. -/
structure Rotations (R : Type u) [CommRing R] where
  cos : Nat → Int → R
  sin : Nat → Int → R
  cos_zero : ∀ f, cos f 0 = 1
  sin_zero : ∀ f, sin f 0 = 0
  cos_sq_add_sin_sq : ∀ f m, cos f m ^ 2 + sin f m ^ 2 = 1
  cos_neg : ∀ f m, cos f (-m) = cos f m
  sin_neg : ∀ f m, sin f (-m) = - sin f m
  cos_add : ∀ f m n, cos f (m + n) = cos f m * cos f n - sin f m * sin f n
  sin_add : ∀ f m n, sin f (m + n) = sin f m * cos f n + cos f m * sin f n

variable {R : Type u} [CommRing R]

/-- `_rotate_half`. -/
def rotateHalf (x : List R) : List R := (x.drop (x.length / 2)).map (- ·) ++ x.take (x.length / 2)

/-- `x * cos + _rotate_half(x) * sin`. -/
def ropeEmbed (x cos sin : List R) : List R :=
  List.zipWith (· + ·) (List.zipWith (· * ·) x cos) (List.zipWith (· * ·) (rotateHalf x) sin)

/-- `_apply_rope`, for one head at one position. -/
def applyRope (q k cos sin : List R) : List R × List R := (ropeEmbed q cos sin, ropeEmbed k cos sin)

/-- The row of `emb` for a position: every angle as its frequency and its position. -/
def angles (headDim : Nat) (position : Int) : List (Nat × Int) :=
  let freqs := (List.range ((headDim + 1) / 2)).map fun frequency => (frequency, position)
  freqs ++ freqs

variable (rotations : Rotations R)

def cosRow (headDim : Nat) (position : Int) : List R := (angles headDim position).map fun (f, p) => rotations.cos f p

def sinRow (headDim : Nat) (position : Int) : List R := (angles headDim position).map fun (f, p) => rotations.sin f p

/-- `_compute_rope_cos_sin`. -/
def computeRopeCosSin (seqLen headDim : Nat) (positionOffset : Int) : List (List R) × List (List R) :=
  ((ropePositions seqLen positionOffset).map (cosRow rotations headDim),
    (ropePositions seqLen positionOffset).map (sinRow rotations headDim))

def dot (x y : List R) : R := (List.zipWith (· * ·) x y).sum

/-- The product of a query at position `m` and a key at position `n`. -/
def ropeScore (headDim : Nat) (q k : List R) (m n : Int) : R :=
  dot (applyRope q k (cosRow rotations headDim m) (sinRow rotations headDim m)).1
    (applyRope q k (cosRow rotations headDim n) (sinRow rotations headDim n)).2

/-- `torch.matmul(q, k.transpose(-1, -2))` after `_apply_rope`, for one head. -/
def ropeScores (headDim : Nat) (positionOffset : Int) (qs ks : List (List R)) : List (List R) :=
  let (cos, sin) := computeRopeCosSin rotations qs.length headDim positionOffset
  let embedded := List.zipWith (fun qk row => applyRope qk.1 qk.2 row.1 row.2) (qs.zip ks) (cos.zip sin)
  embedded.map fun (q, _) => embedded.map fun (_, k) => dot q k

variable {rotations} {headDim : Nat} {q k a b c d : List R} {m n m' n' : Int} {fs : List Nat}

/-! ### One frequency -/

theorem Rotations.cos_sub (f : Nat) (m n : Int) :
    rotations.cos f (m - n) = rotations.cos f m * rotations.cos f n + rotations.sin f m * rotations.sin f n := by
  rw [sub_eq_add_neg, rotations.cos_add, rotations.cos_neg, rotations.sin_neg]
  ring

theorem Rotations.sin_sub (f : Nat) (m n : Int) :
    rotations.sin f (m - n) = rotations.sin f m * rotations.cos f n - rotations.cos f m * rotations.sin f n := by
  rw [sub_eq_add_neg, rotations.sin_add, rotations.cos_neg, rotations.sin_neg]
  ring

variable (rotations) in
/-- Two turned pairs multiply to a term that only knows the difference of the positions. -/
theorem turned_pairs (f : Nat) (x y z w : R) (m n : Int) :
    (x * rotations.cos f m + -y * rotations.sin f m) * (z * rotations.cos f n + -w * rotations.sin f n) +
        (y * rotations.cos f m + x * rotations.sin f m) * (w * rotations.cos f n + z * rotations.sin f n) =
      (x * z + y * w) * rotations.cos f (m - n) + (x * w - y * z) * rotations.sin f (m - n) := by
  rw [rotations.cos_sub, rotations.sin_sub]
  ring

/-! ### The halves of a head -/

variable (rotations fs) in
/-- The first half of an embedded head with the halves `a` and `b`. -/
def lowHalf (a b : List R) (m : Int) : List R :=
  List.zipWith (· + ·) (List.zipWith (· * ·) a (fs.map (rotations.cos · m)))
    (List.zipWith (· * ·) (b.map (- ·)) (fs.map (rotations.sin · m)))

variable (rotations fs) in
/-- Its second half. -/
def highHalf (a b : List R) (m : Int) : List R :=
  List.zipWith (· + ·) (List.zipWith (· * ·) b (fs.map (rotations.cos · m)))
    (List.zipWith (· * ·) a (fs.map (rotations.sin · m)))

/-- The table repeats the frequencies in both halves, so the halves are turned together. -/
theorem ropeEmbed_halves (low : a.length = headDim) (high : b.length = headDim) :
    ropeEmbed (a ++ b) (cosRow rotations (headDim + headDim) m) (sinRow rotations (headDim + headDim) m) =
      lowHalf rotations (List.range headDim) a b m ++ highHalf rotations (List.range headDim) a b m := by
  have half : (a ++ b).length / 2 = a.length := by
    rw [List.length_append]
    omega
  have count : (headDim + headDim + 1) / 2 = headDim := by
    omega
  have turned : rotateHalf (a ++ b) = b.map (- ·) ++ a := by
    rw [rotateHalf, half, List.drop_left, List.take_left]
  rw [ropeEmbed, turned, cosRow, sinRow, angles, count, List.map_append, List.map_append, List.map_map, List.map_map,
    List.zipWith_append (by simp [low]), List.zipWith_append (by simp [high]), List.zipWith_append (by simp [low, high])]
  rfl

theorem dot_append (same : a.length = c.length) : dot (a ++ b) (c ++ d) = dot a c + dot b d := by
  rw [dot, List.zipWith_append same, List.sum_append]
  rfl

/-- The halves of a query and a key: induction on the frequencies. -/
theorem halves_relative (apart : m - n = m' - n') :
    dot (lowHalf rotations fs a b m) (lowHalf rotations fs c d n) +
        dot (highHalf rotations fs a b m) (highHalf rotations fs c d n) =
      dot (lowHalf rotations fs a b m') (lowHalf rotations fs c d n') +
        dot (highHalf rotations fs a b m') (highHalf rotations fs c d n') := by
  induction fs generalizing a b c d with
  | nil => simp [lowHalf, highHalf]
  | cons f fs ih =>
    -- Where a half is used up, both sides have no more terms.
    cases a with
    | nil => simp [lowHalf, highHalf, dot]
    | cons x a =>
      cases b with
      | nil => simp [lowHalf, highHalf, dot]
      | cons y b =>
        cases c with
        | nil => simp [lowHalf, highHalf, dot]
        | cons z c =>
          cases d with
          | nil => simp [lowHalf, highHalf, dot]
          | cons w d =>
            have first := turned_pairs rotations f x y z w m n
            rw [apart, ← turned_pairs] at first
            have rest := @ih a b c d
            simp only [lowHalf, highHalf, dot, List.map_cons, List.zipWith_cons_cons, List.sum_cons] at rest ⊢
            linear_combination first + rest

/-- The scores of embedded heads depend on the difference of the positions alone. -/
theorem ropeScore_relative (even : Even headDim) (query : q.length = headDim) (key : k.length = headDim)
    (apart : m - n = m' - n') : ropeScore rotations headDim q k m n = ropeScore rotations headDim q k m' n' := by
  obtain ⟨half, rfl⟩ := even
  have split : ∀ {x : List R}, x.length = half + half →
      ∃ a b, x = a ++ b ∧ a.length = half ∧ b.length = half := by
    intro x sized
    refine ⟨x.take half, x.drop half, (List.take_append_drop half x).symm, ?_, ?_⟩
    · rw [List.length_take]
      omega
    · rw [List.length_drop]
      omega
  obtain ⟨a, b, rfl, low, high⟩ := split query
  obtain ⟨c, d, rfl, low', high'⟩ := split key
  have sized : ∀ m n, (lowHalf rotations (List.range half) a b m).length =
      (lowHalf rotations (List.range half) c d n).length := by
    intro m n
    simp [lowHalf, low, high, low', high']
  simp only [ropeScore, applyRope, ropeEmbed_halves low high, ropeEmbed_halves low' high', dot_append (sized _ _)]
  exact halves_relative apart

/-! ### A pass -/

/-- The scores of a pass, one for every two of its positions. -/
theorem ropeScores_eq (offset : Int) (qs ks : List (List R)) :
    ropeScores rotations headDim offset qs ks =
      ((qs.zip ks).zip (List.range qs.length)).map fun query =>
        ((qs.zip ks).zip (List.range qs.length)).map fun key =>
          ropeScore rotations headDim query.1.1 key.1.2 (offset + query.2) (offset + key.2) := by
  have embedded : List.zipWith (fun (qk : List R × List R) (row : List R × List R) => applyRope qk.1 qk.2 row.1 row.2)
      (qs.zip ks) (((ropePositions qs.length offset).map (cosRow rotations headDim)).zip
        ((ropePositions qs.length offset).map (sinRow rotations headDim))) =
      ((qs.zip ks).zip (List.range qs.length)).map fun entry => applyRope entry.1.1 entry.1.2
        (cosRow rotations headDim (offset + entry.2)) (sinRow rotations headDim (offset + entry.2)) := by
    rw [List.zip_map', ropePositions, List.map_map, List.zipWith_map_right, ← List.map_uncurry_zip_eq_zipWith]
    rfl
  rw [ropeScores, computeRopeCosSin]
  simp only [embedded, List.map_map]
  rfl

/-- The product of an embedded query and an embedded key only depends on how far apart
they are, so the scores of a pass do not depend on where it starts. -/
theorem rope_scores_relative (rotations : Rotations R) (even : Even headDim) :
    (∀ q k : List R, q.length = headDim → k.length = headDim → ∀ m n m' n' : Int, m - n = m' - n' →
      ropeScore rotations headDim q k m n = ropeScore rotations headDim q k m' n') ∧
    ∀ qs ks : List (List R), (∀ q ∈ qs, q.length = headDim) → (∀ k ∈ ks, k.length = headDim) →
      ∀ offset offset' : Int, ropeScores rotations headDim offset qs ks = ropeScores rotations headDim offset' qs ks := by
  refine ⟨fun q k query key m n m' n' apart => ropeScore_relative even query key apart, ?_⟩
  intro qs ks queries keys offset offset'
  rw [ropeScores_eq, ropeScores_eq]
  apply List.map_congr_left
  intro query queried
  apply List.map_congr_left
  intro key keyed
  apply ropeScore_relative even
  · exact queries _ (List.of_mem_zip (List.of_mem_zip queried).1).1
  · exact keys _ (List.of_mem_zip (List.of_mem_zip keyed).1).2
  · omega

def quarterCos (m : Int) : Int := if m % 4 = 0 then 1 else if m % 4 = 2 then -1 else 0

def quarterSin (m : Int) : Int := if m % 4 = 1 then 1 else if m % 4 = 3 then -1 else 0

theorem quarter_cases (m : Int) :
    (m % 4 = 0 ∧ quarterCos m = 1 ∧ quarterSin m = 0) ∨ (m % 4 = 1 ∧ quarterCos m = 0 ∧ quarterSin m = 1) ∨
      (m % 4 = 2 ∧ quarterCos m = -1 ∧ quarterSin m = 0) ∨ (m % 4 = 3 ∧ quarterCos m = 0 ∧ quarterSin m = -1) := by
  unfold quarterCos quarterSin
  omega

theorem quarter_sq (m : Int) : quarterCos m ^ 2 + quarterSin m ^ 2 = 1 := by
  rcases quarter_cases m with ⟨_, cos, sin⟩ | ⟨_, cos, sin⟩ | ⟨_, cos, sin⟩ | ⟨_, cos, sin⟩ <;> rw [cos, sin] <;> rfl

theorem quarter_neg (m : Int) : quarterCos (-m) = quarterCos m ∧ quarterSin (-m) = - quarterSin m := by
  unfold quarterCos quarterSin
  omega

/-- By the remainders of the summands. -/
theorem quarter_add (m n : Int) :
    quarterCos (m + n) = quarterCos m * quarterCos n - quarterSin m * quarterSin n ∧
      quarterSin (m + n) = quarterSin m * quarterCos n + quarterCos m * quarterSin n := by
  have sum : (m + n) % 4 = (m % 4 + n % 4) % 4 := Int.add_emod m n 4
  rcases quarter_cases m with ⟨left, cosm, sinm⟩ | ⟨left, cosm, sinm⟩ | ⟨left, cosm, sinm⟩ | ⟨left, cosm, sinm⟩ <;>
    rcases quarter_cases n with ⟨right, cosn, sinn⟩ | ⟨right, cosn, sinn⟩ | ⟨right, cosn, sinn⟩ | ⟨right, cosn, sinn⟩ <;>
      rw [left, right] at sum <;>
      rw [cosm, sinm, cosn, sinn, quarterCos, quarterSin, sum] <;> decide

/-- The frequency `f` makes `f + 1` quarter turns at every position. -/
def quarterTurns : Rotations Int where
  cos f m := quarterCos (m * (f + 1))
  sin f m := quarterSin (m * (f + 1))
  cos_zero f := by simp [quarterCos]
  sin_zero f := by simp [quarterSin]
  cos_sq_add_sin_sq f m := quarter_sq _
  cos_neg f m := by
    rw [neg_mul]
    exact (quarter_neg _).1
  sin_neg f m := by
    rw [neg_mul]
    exact (quarter_neg _).2
  cos_add f m n := by
    rw [add_mul]
    exact (quarter_add _ _).1
  sin_add f m n := by
    rw [add_mul]
    exact (quarter_add _ _).2

theorem rope_scores_relative_quarter :
    ropeScore quarterTurns 4 [1, 2, 3, 4] [5, 6, 7, 8] 7 4 = ropeScore quarterTurns 4 [1, 2, 3, 4] [5, 6, 7, 8] 3 0 ∧
      ropeScores quarterTurns 4 9 [[1, 2, 3, 4], [0, 1, 0, 2]] [[5, 6, 7, 8], [1, 0, 0, 3]] =
        ropeScores quarterTurns 4 0 [[1, 2, 3, 4], [0, 1, 0, 2]] [[5, 6, 7, 8], [1, 0, 0, 3]] := by
  have relative := rope_scores_relative quarterTurns (show Even 4 from ⟨2, rfl⟩)
  exact ⟨relative.1 _ _ rfl rfl 7 4 3 0 rfl, relative.2 _ _ (by simp) (by simp) 9 0⟩

/-! ### The attention -/

variable (R headDim) in
/-- One head of a query or a key. -/
abbrev HeadVector : Type u := {x : List R // x.length = headDim}

theorem ropeEmbed_length (even : Even headDim) (sized : q.length = headDim) (position : Int) :
    (ropeEmbed q (cosRow rotations headDim position) (sinRow rotations headDim position)).length = headDim := by
  obtain ⟨half, rfl⟩ := even
  have count : (half + half + 1) / 2 = half := by
    omega
  simp only [ropeEmbed, rotateHalf, cosRow, sinRow, angles, count, List.length_zipWith, List.length_append, List.length_map,
    List.length_drop, List.length_take, List.length_range, sized]
  omega

section

variable {Row Head Score : Type} {layout : HeadLayout} {kernels : Kernels Row Head Score} {position position' : Int}

variable (kernels) in
/-- Scores that only depend on how far apart the positions are. -/
def Kernels.Relative : Prop := ∀ q k m n m' n', m - n = m' - n' →
  kernels.score (kernels.rope q m) (kernels.rope k n) = kernels.score (kernels.rope q m') (kernels.rope k n')

/-- A repeated key is the embedded repetition. -/
theorem key_head (attn : LlamaAttention layout Row Head) (x : Row) (position : Int) (head : Fin layout.nHeads) :
    attn.key kernels x position head = kernels.rope (repeatHeads layout (attn.kProj x) head) position := by
  unfold LlamaAttention.key repeatHeads
  split <;> rfl

/-- What query `i` of a fresh pass sees, with the position that each key was embedded at. -/
theorem visible_fresh (attn : LlamaAttention layout Row Head) (xs : List Row) (offset : Int) (i : Nat) :
    visible 0 (attn.newKv kernels (xs.zip (ropePositions xs.length offset))) i =
      ((xs.zip (List.range xs.length)).zipIdx.filter fun entry => !causalMask 0 i entry.2).map fun entry =>
        (attn.key kernels entry.1.1 (offset + entry.1.2), attn.value entry.1.1) := by
  have rows : xs.zip (ropePositions xs.length offset) =
      (xs.zip (List.range xs.length)).map fun entry => (entry.1, offset + (entry.2 : Int)) := by
    rw [ropePositions, List.zip_map_right]
    rfl
  simp only [visible, LlamaAttention.newKv, rows, List.map_map, List.zip_map', List.zipIdx_map, List.filter_map]
  rfl

/-- A query at the shifted position weighs what it sees as before. -/
theorem attendRow_shift (relative : kernels.Relative) (attn : LlamaAttention layout Row Head) (x : Row) (xs : List Row)
    (offset offset' : Int) (i : Nat) :
    attendRow kernels (attn.query kernels x (offset + i))
        (visible 0 (attn.newKv kernels (xs.zip (ropePositions xs.length offset))) i) =
      attendRow kernels (attn.query kernels x (offset' + i))
        (visible 0 (attn.newKv kernels (xs.zip (ropePositions xs.length offset'))) i) := by
  funext head
  rw [attendRow, attendRow, visible_fresh, visible_fresh, List.map_map, List.map_map]
  congr 1
  apply List.map_congr_left
  intro entry _
  have apart : offset + (i : Int) - (offset + entry.1.2) = offset' + i - (offset' + entry.1.2) := by
    omega
  simp only [Function.comp_apply, LlamaAttention.query, key_head, relative _ _ _ _ _ _ apart]

/-- The rows that the attention of a fresh pass returns do not depend on where it starts. -/
theorem forward_shift (relative : kernels.Relative) (attn : LlamaAttention layout Row Head) (xs : List Row)
    (offset offset' : Int) :
    (attn.forward kernels xs (ropePositions xs.length offset) none).map Prod.fst =
      (attn.forward kernels xs (ropePositions xs.length offset') none).map Prod.fst := by
  have fresh : ∀ offset, (attn.newKv kernels (xs.zip (ropePositions xs.length offset))).length - xs.length = 0 := by
    intro offset
    simp [Kv.length, LlamaAttention.newKv, ropePositions_length]
  unfold LlamaAttention.forward
  simp only [Kv.extend, fresh]
  split
  · rfl
  · apply congrArg Except.ok
    apply List.ext_getElem
    · simp [ropePositions_length]
    · intro i inRange inRange'
      have within : i < xs.length := by
        simpa [ropePositions_length] using inRange
      simp only [List.getElem_mapIdx, List.getElem_map, List.getElem_zip, ropePositions, List.getElem_range]
      exact congrArg attn.oProj (attendRow_shift relative attn xs[i] xs offset offset' i)

end

/-! ### The kernels of the code -/

variable {S : Type} [CommRing S] {Row Score : Type}

/-- The rotary embedding and the scores as the code has them, over exact numbers. -/
def rotaryKernels (rotations : Rotations S) (even : Even headDim) (scale : S → Score)
    (attend : List (Score × HeadVector S headDim) → HeadVector S headDim) (add : Row → Row → Row) :
    Kernels Row (HeadVector S headDim) Score where
  rope x position := ⟨ropeEmbed x.1 (cosRow rotations headDim position) (sinRow rotations headDim position),
    ropeEmbed_length even x.2 position⟩
  score q k := scale (dot q.1 k.1)
  attend := attend
  add := add

theorem rotaryKernels_relative (rotations : Rotations S) (even : Even headDim) (scale : S → Score)
    (attend : List (Score × HeadVector S headDim) → HeadVector S headDim) (add : Row → Row → Row) :
    (rotaryKernels rotations even scale attend add).Relative :=
  fun q k _ _ _ _ apart => congrArg scale (ropeScore_relative even q.2 k.2 apart)

end ComputeCloudNode.ModelShard
