import Mathlib.Data.Int.ModEq
import Mathlib.Data.List.Forall2
import Mathlib.NumberTheory.LucasPrimality
import Mathlib.Tactic.NormNum.Prime
import Mathlib.Tactic.ReduceModChar
import ComputeCloudNode.PipelineExecutor

/-! A layer of the toy model permutes the residues of the modulus, which is prime: the
multiplier is never zero, whatever the hash. So a range of layers loses nothing about
the activations but what the modulus itself forgets. -/
namespace ComputeCloudNode.PipelineExecutor

variable {hash : List UInt8 → List UInt8} {modelName : String} {startLayer endLayer mult bias : Int}
  {v w : List Int}

/-- All activations are residues in `[0, modulus)`. -/
def Canonical (values : List Int) : Prop := ∀ v ∈ values, 0 ≤ v ∧ v < modulus

/-! ### The modulus -/

private theorem prime_half : Nat.Prime 500000003 := by
  apply lucas_primality _ 2
  · reduce_mod_char
  · intro q prime divides
    have factored : q ∣ 2 * 41 ^ 2 * 148721 := divides
    rw [prime.dvd_mul, prime.dvd_mul, Nat.prime_dvd_prime_iff_eq prime Nat.prime_two] at factored
    rcases factored with (rfl | power) | last
    · reduce_mod_char
      decide
    · rw [(Nat.prime_dvd_prime_iff_eq prime (by norm_num)).mp (prime.dvd_of_dvd_pow power)]
      reduce_mod_char
      decide
    · rw [(Nat.prime_dvd_prime_iff_eq prime (by norm_num)).mp last]
      reduce_mod_char
      decide

/-- The modulus is prime: 5 generates its residues. -/
private theorem modulus_nat_prime : Nat.Prime 1000000007 := by
  apply lucas_primality _ 5
  · reduce_mod_char
  · intro q prime divides
    have factored : q ∣ 2 * 500000003 := divides
    rw [prime.dvd_mul, Nat.prime_dvd_prime_iff_eq prime Nat.prime_two,
      Nat.prime_dvd_prime_iff_eq prime prime_half] at factored
    rcases factored with rfl | rfl
    · reduce_mod_char
      decide
    · reduce_mod_char
      decide

theorem modulus_prime : Prime modulus := Nat.prime_iff_prime_int.mp modulus_nat_prime

theorem modulus_positive : 0 < modulus := by
  decide

/-! ### A layer -/

/-- The multiplier is in `[1, modulus)`, whatever the digest. -/
theorem layerParams_mult (hash : List UInt8 → List UInt8) (modelName : String) (layerIndex : Int) :
    0 < (layerParams hash modelName layerIndex).1 ∧ (layerParams hash modelName layerIndex).1 < modulus := by
  have low : 0 < modulus - 1 := by
    decide
  constructor
  · exact Int.lt_add_one_of_le (Int.emod_nonneg _ low.ne')
  · exact Int.add_lt_of_lt_sub_right (Int.emod_lt_of_pos _ low)

/-- A layer takes congruent values, and only these, to congruent ones. -/
theorem layer_modEq (positive : 0 < mult) (small : mult < modulus) (x y : Int) :
    Int.ModEq modulus ((x * mult + bias) % modulus) ((y * mult + bias) % modulus) ↔ Int.ModEq modulus x y := by
  have coprime : ¬ modulus ∣ mult := fun divides => absurd (Int.le_of_dvd positive divides) (by omega)
  rw [Int.ModEq, Int.emod_emod, Int.emod_emod]
  constructor
  · intro same
    have divides : modulus ∣ (y - x) * mult := by
      rw [sub_mul, ← add_sub_add_right_eq_sub _ _ bias]
      exact Int.ModEq.dvd same
    exact Int.modEq_iff_dvd.mpr ((modulus_prime.dvd_or_dvd divides).resolve_right coprime)
  · intro same
    exact (same.mul_right mult).add_right bias

theorem applyLayer_modEq (positive : 0 < mult) (small : mult < modulus) :
    List.Forall₂ (Int.ModEq modulus) (applyLayer v mult bias) (applyLayer w mult bias) ↔
      List.Forall₂ (Int.ModEq modulus) v w := by
  rw [applyLayer, applyLayer, List.forall₂_map_left_iff, List.forall₂_map_right_iff]
  simp only [layer_modEq positive small]

theorem applyLayer_canonical (values : List Int) : Canonical (applyLayer values mult bias) := by
  intro out member
  obtain ⟨v, _, rfl⟩ := List.mem_map.mp member
  exact ⟨Int.emod_nonneg _ modulus_positive.ne', Int.emod_lt_of_pos _ modulus_positive⟩

/-- Residues are congruent only when they are equal. -/
theorem Canonical.modEq_iff (left : Canonical v) (right : Canonical w) :
    List.Forall₂ (Int.ModEq modulus) v w ↔ v = w := by
  constructor
  · intro congruent
    induction congruent with
    | nil => rfl
    | @cons x y v w same _ ih =>
      obtain ⟨⟨low, high⟩, leftRest⟩ := List.forall_mem_cons.mp left
      obtain ⟨⟨low', high'⟩, rightRest⟩ := List.forall_mem_cons.mp right
      rw [Int.ModEq, Int.emod_eq_of_lt low high, Int.emod_eq_of_lt low' high'] at same
      rw [same, ih leftRest rightRest]
  · rintro rfl
    exact List.forall₂_same.mpr fun _ _ => rfl

/-! ### A range of layers -/

theorem runLayers_last (ordered : startLayer ≤ endLayer) (values : List Int) :
    runLayers hash modelName startLayer (endLayer + 1) values =
      applyLayer (runLayers hash modelName startLayer endLayer values) (layerParams hash modelName endLayer).1
        (layerParams hash modelName endLayer).2 := by
  rw [← runLayers_append ordered (by omega)]
  simp [runLayers]

theorem runLayers_canonical_of_lt (some_ : startLayer < endLayer) (values : List Int) :
    Canonical (runLayers hash modelName startLayer endLayer values) := by
  have split : endLayer = endLayer - 1 + 1 := (Int.sub_add_cancel endLayer 1).symm
  rw [split, runLayers_last (Int.le_sub_one_of_lt some_)]
  exact applyLayer_canonical _

theorem Canonical.runLayers (canonical : Canonical v) (ordered : startLayer ≤ endLayer) :
    Canonical (runLayers hash modelName startLayer endLayer v) := by
  rcases ordered.eq_or_lt with rfl | some_
  · rwa [runLayers_self]
  · exact runLayers_canonical_of_lt some_ v

/-- The layers keep the classes of the activations apart: induction on their number. -/
theorem runLayers_modEq (ordered : startLayer ≤ endLayer) :
    List.Forall₂ (Int.ModEq modulus) (runLayers hash modelName startLayer endLayer v)
      (runLayers hash modelName startLayer endLayer w) ↔ List.Forall₂ (Int.ModEq modulus) v w := by
  induction endLayer, ordered using Int.leInduction with
  | base => rw [runLayers_self, runLayers_self]
  | succ endLayer ordered ih =>
    obtain ⟨positive, small⟩ := layerParams_mult hash modelName endLayer
    rw [runLayers_last ordered, runLayers_last ordered, applyLayer_modEq positive small]
    exact ih

variable (hash modelName v w) in
/-- On residues the layers are injective; on other activations one layer already gives
residues, which tell apart what the modulus tells apart. -/
theorem runLayers_eq_iff (ordered : startLayer ≤ endLayer) :
    (Canonical v → Canonical w →
      (runLayers hash modelName startLayer endLayer v = runLayers hash modelName startLayer endLayer w ↔ v = w)) ∧
    (startLayer < endLayer →
      (runLayers hash modelName startLayer endLayer v = runLayers hash modelName startLayer endLayer w ↔
        List.Forall₂ (Int.ModEq modulus) v w) ∧
      Canonical (runLayers hash modelName startLayer endLayer v)) := by
  refine ⟨fun left right => ?_, fun some_ => ⟨?_, runLayers_canonical_of_lt some_ v⟩⟩
  · rw [← (left.runLayers ordered).modEq_iff (right.runLayers ordered), runLayers_modEq ordered, left.modEq_iff right]
  · rw [← (runLayers_canonical_of_lt some_ v).modEq_iff (runLayers_canonical_of_lt some_ w), runLayers_modEq ordered]

/-- Two layers on activations that the modulus does not tell apart. -/
theorem runLayers_eq_iff_toy :
    runLayers Sha256.digest "toy" 0 2 [5, -3] = runLayers Sha256.digest "toy" 0 2 [1000000012, 1000000004] ∧
      runLayers Sha256.digest "toy" 0 2 [5, 8] ≠ runLayers Sha256.digest "toy" 0 2 [5, 9] := by
  constructor
  · apply ((runLayers_eq_iff Sha256.digest "toy" [5, -3] [1000000012, 1000000004] (by decide)).2 (by decide)).1.mpr
    exact .cons rfl (.cons rfl .nil)
  · intro same
    have canonical : Canonical [5, 8] ∧ Canonical [5, 9] := by
      simp [Canonical, modulus]
    have equal := ((runLayers_eq_iff Sha256.digest "toy" [5, 8] [5, 9] (by decide)).1 canonical.1 canonical.2).mp same
    simp at equal

/-! ### Divided activations -/

/-- A range of layers works on each part of the activations by itself. -/
theorem runLayers_flatten (ordered : startLayer ≤ endLayer) (parts : List (List Int)) :
    runLayers hash modelName startLayer endLayer parts.flatten =
      (parts.map (runLayers hash modelName startLayer endLayer)).flatten := by
  induction endLayer, ordered using Int.leInduction with
  | base =>
    have each : runLayers hash modelName startLayer startLayer = id := funext fun _ => runLayers_self startLayer
    rw [each, List.map_id, id]
  | succ endLayer ordered ih =>
    have each : runLayers hash modelName startLayer (endLayer + 1) =
        (fun values => applyLayer values (layerParams hash modelName endLayer).1 (layerParams hash modelName endLayer).2) ∘
          runLayers hash modelName startLayer endLayer :=
      funext (runLayers_last ordered)
    rw [runLayers_last ordered, ih, each, applyLayer, List.map_flatten, List.map_map]
    rfl

end ComputeCloudNode.PipelineExecutor
