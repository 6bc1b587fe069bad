import Mathlib.Tactic

/-! Numbers as bytes of a fixed width, and lists cut into slices of one length. -/
namespace Bytes

variable {α : Type}

/-! ### Numbers -/

/-- The lowest bytes of a number, the least significant first. -/
def toLittle : Nat → Nat → List UInt8
  | 0, _ => []
  | width + 1, n => UInt8.ofNat (n % 256) :: toLittle width (n / 256)

def ofLittle : List UInt8 → Nat
  | [] => 0
  | b :: rest => b.toNat + 256 * ofLittle rest

def ofBig (bytes : List UInt8) : Nat := ofLittle bytes.reverse

theorem toLittle_length (width n : Nat) : (toLittle width n).length = width := by
  induction width generalizing n with
  | zero => rfl
  | succ width ih => rw [toLittle, List.length_cons, ih]

theorem ofLittle_toLittle {width n : Nat} (fits : n < 256 ^ width) : ofLittle (toLittle width n) = n := by
  induction width generalizing n with
  | zero =>
    rw [Nat.pow_zero, Nat.lt_one_iff] at fits
    rw [fits]
    rfl
  | succ width ih =>
    rw [Nat.pow_succ] at fits
    have rest : n / 256 < 256 ^ width := Nat.div_lt_of_lt_mul (by rwa [Nat.mul_comm] at fits)
    have byte : n % 256 < 256 := Nat.mod_lt n (by decide)
    rw [toLittle, ofLittle, ih rest, UInt8.toNat_ofNat_of_lt' byte]
    omega

/-- Two's complement. -/
def packSigned (width : Nat) (n : Int) : List UInt8 := toLittle width (n % 256 ^ width).toNat

def unpackSigned (bytes : List UInt8) : Int :=
  let n := ofLittle bytes
  if 2 * n < 256 ^ bytes.length then n else n - 256 ^ bytes.length

theorem packSigned_length (width : Nat) (n : Int) : (packSigned width n).length = width := toLittle_length _ _

theorem unpackSigned_packSigned {width : Nat} {n : Int} (low : -256 ^ width ≤ 2 * n) (high : 2 * n < 256 ^ width) :
    unpackSigned (packSigned width n) = n := by
  have positive : (0 : Int) < 256 ^ width := by positivity
  have reduced := Int.emod_nonneg n positive.ne'
  have bounded := Int.emod_lt_of_pos n positive
  have stored : ((n % 256 ^ width).toNat : Int) = n % 256 ^ width := Int.toNat_of_nonneg reduced
  have fits : (n % 256 ^ width).toNat < 256 ^ width := by
    zify
    rwa [stored]
  unfold unpackSigned
  rw [packSigned_length, packSigned, ofLittle_toLittle fits]
  dsimp only
  rw [stored]
  rcases lt_or_ge n 0 with negative | natural
  · have wrapped : n % 256 ^ width = n + 256 ^ width := by
      rw [← Int.add_emod_right]
      exact Int.emod_eq_of_lt (by omega) (by omega)
    have upper : ¬ 2 * (n % 256 ^ width).toNat < 256 ^ width := by
      zify
      rw [stored, wrapped]
      omega
    rw [if_neg upper, wrapped]
    omega
  · have same : n % 256 ^ width = n := Int.emod_eq_of_lt natural (by omega)
    have lower : 2 * (n % 256 ^ width).toNat < 256 ^ width := by
      zify
      rwa [stored, same]
    rw [if_pos lower, same]

/-! ### Slices -/

/-- `xs[index * size:(index + 1) * size]`. -/
def slice (xs : List α) (size index : Nat) : List α := (xs.drop (index * size)).take size

theorem mem_of_mem_slice {xs : List α} {size index : Nat} {x : α} (member : x ∈ slice xs size index) : x ∈ xs :=
  List.mem_of_mem_drop (List.mem_of_mem_take member)

theorem slice_length {xs : List α} {size index count : Nat} (inside : index < count)
    (long : count * size ≤ xs.length) : (slice xs size index).length = size := by
  have upTo : (index + 1) * size ≤ xs.length := (Nat.mul_le_mul_right size inside).trans long
  rw [Nat.succ_mul] at upTo
  rw [slice, List.length_take, List.length_drop]
  omega

/-- A list put together from pieces of one length is cut into these pieces. -/
theorem slice_flatten {pieces : List (List α)} {size : Nat} (sized : ∀ piece ∈ pieces, piece.length = size) :
    (List.range pieces.length).map (slice pieces.flatten size) = pieces := by
  induction pieces with
  | nil => rfl
  | cons piece pieces ih =>
    obtain ⟨here, rest⟩ := List.forall_mem_cons.mp sized
    have later : ∀ index, slice (piece :: pieces).flatten size (index + 1) = slice pieces.flatten size index := by
      intro index
      rw [slice, slice, List.flatten_cons, Nat.succ_mul, Nat.add_comm, ← List.drop_drop, ← here,
        List.drop_left]
    rw [List.length_cons, List.range_succ_eq_map, List.map_cons, List.map_map]
    congr 1
    · rw [slice, Nat.zero_mul, List.drop_zero, List.flatten_cons, ← here, List.take_left]
    · rw [← ih rest]
      simp only [Function.comp_def, Nat.succ_eq_add_one, later, ih rest]

/-- The slices of a list, one after the other, are the list. -/
theorem flatten_slices {xs : List α} {size count : Nat} (sized : xs.length = count * size) :
    ((List.range count).map (slice xs size)).flatten = xs := by
  induction count generalizing xs with
  | zero =>
    rw [Nat.zero_mul] at sized
    rw [List.eq_nil_of_length_eq_zero sized]
    rfl
  | succ count ih =>
    have rest : (xs.drop size).length = count * size := by
      rw [List.length_drop, sized, Nat.succ_mul, Nat.add_sub_cancel]
    have later : ∀ index, slice xs size (index + 1) = slice (xs.drop size) size index := by
      intro index
      rw [slice, slice, List.drop_drop, Nat.succ_mul, Nat.add_comm]
    have cut := ih rest
    rw [List.range_succ_eq_map, List.map_cons, List.map_map, List.flatten_cons]
    simp only [Function.comp_def, Nat.succ_eq_add_one, later, cut]
    rw [slice, Nat.zero_mul, List.drop_zero, List.take_append_drop]

theorem flatten_length {pieces : List (List α)} {size : Nat} (sized : ∀ piece ∈ pieces, piece.length = size) :
    pieces.flatten.length = pieces.length * size := by
  induction pieces with
  | nil => simp
  | cons piece pieces ih =>
    obtain ⟨here, rest⟩ := List.forall_mem_cons.mp sized
    rw [List.flatten_cons, List.length_append, here, ih rest, List.length_cons]
    ring

end Bytes
