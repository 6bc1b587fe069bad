import Mathlib.Tactic

/-! Base64 as Python's `base64` module encodes it and, without `validate`, decodes
it: characters outside the alphabet are skipped, and the text ends where its last
group is padded. -/
namespace Base64

def encodeDigit (d : Nat) : Char :=
  if d < 26 then Char.ofNat (65 + d)
  else if d < 52 then Char.ofNat (97 + (d - 26))
  else if d < 62 then Char.ofNat (48 + (d - 52))
  else if d = 62 then '+' else '/'

def decodeDigit (c : Char) : Option Nat :=
  if 'A' ≤ c ∧ c ≤ 'Z' then some (c.toNat - 65)
  else if 'a' ≤ c ∧ c ≤ 'z' then some (c.toNat - 97 + 26)
  else if '0' ≤ c ∧ c ≤ '9' then some (c.toNat - 48 + 52)
  else if c = '+' then some 62 else if c = '/' then some 63 else none

/-- `b64encode`. -/
def encode : List UInt8 → List Char
  | [] => []
  | [a] => [encodeDigit (a.toNat / 4), encodeDigit (a.toNat % 4 * 16), '=', '=']
  | [a, b] =>
    [encodeDigit (a.toNat / 4), encodeDigit (a.toNat % 4 * 16 + b.toNat / 16), encodeDigit (b.toNat % 16 * 4), '=']
  | a :: b :: c :: rest =>
    encodeDigit (a.toNat / 4) :: encodeDigit (a.toNat % 4 * 16 + b.toNat / 16) ::
      encodeDigit (b.toNat % 16 * 4 + c.toNat / 64) :: encodeDigit (c.toNat % 64) :: encode rest

/-- The loop of `a2b_base64`: the position in the group of four, the bits left over
from the last digit, the padding seen since, and the bytes so far. -/
def scan (quad left pads : Nat) (bytes : List UInt8) : List Char → Except String (List UInt8)
  | [] =>
    if quad = 0 then .ok bytes
    else if quad = 1 then
      .error ("Invalid base64-encoded string: number of data characters " ++
        s!"({bytes.length / 3 * 4 + 1}) cannot be 1 more than a multiple of 4")
    else .error "Incorrect padding"
  | c :: rest =>
    if c = '=' then
      if 2 ≤ quad ∧ 4 ≤ quad + (pads + 1) then .ok bytes
      else scan quad left (if 2 ≤ quad then pads + 1 else pads) bytes rest
    else
      match decodeDigit c with
      | none => scan quad left pads bytes rest
      | some d =>
        match quad with
        | 0 => scan 1 d 0 bytes rest
        | 1 => scan 2 (d % 16) 0 (bytes ++ [UInt8.ofNat (left * 4 + d / 16)]) rest
        | 2 => scan 3 (d % 4) 0 (bytes ++ [UInt8.ofNat (left * 16 + d / 4)]) rest
        | _ => scan 0 0 0 (bytes ++ [UInt8.ofNat (left * 64 + d)]) rest

/-- `b64decode` of a text. -/
def decode (cs : List Char) : Except String (List UInt8) :=
  if cs.all fun c => c.toNat < 128 then scan 0 0 0 [] cs
  else .error "string argument should contain only ASCII characters"

/-! ### Decoding inverts encoding -/

theorem decodeDigit_encodeDigit : ∀ d < 64, decodeDigit (encodeDigit d) = some d := by
  decide +kernel

theorem encodeDigit_ne_pad : ∀ d < 64, encodeDigit d ≠ '=' := by
  decide +kernel

theorem encodeDigit_ascii : ∀ d < 64, (encodeDigit d).toNat < 128 := by
  decide +kernel

theorem encode_nil : encode [] = [] := rfl

theorem encode_one (a : UInt8) :
    encode [a] = [encodeDigit (a.toNat / 4), encodeDigit (a.toNat % 4 * 16), '=', '='] := rfl

theorem encode_two (a b : UInt8) : encode [a, b] =
    [encodeDigit (a.toNat / 4), encodeDigit (a.toNat % 4 * 16 + b.toNat / 16), encodeDigit (b.toNat % 16 * 4), '='] :=
  rfl

theorem encode_group (a b c : UInt8) (rest : List UInt8) : encode (a :: b :: c :: rest) =
    encodeDigit (a.toNat / 4) :: encodeDigit (a.toNat % 4 * 16 + b.toNat / 16) ::
      encodeDigit (b.toNat % 16 * 4 + c.toNat / 64) :: encodeDigit (c.toNat % 64) :: encode rest := rfl

variable {d left pads : Nat} {bytes : List UInt8} {rest : List Char}

theorem scan_end : scan 0 left pads bytes [] = .ok bytes := rfl

/-- A digit of the alphabet takes the loop to the next position of the group. -/
theorem scan_digit {quad : Nat} (digit : d < 64) : scan quad left pads bytes (encodeDigit d :: rest) =
    match quad with
    | 0 => scan 1 d 0 bytes rest
    | 1 => scan 2 (d % 16) 0 (bytes ++ [UInt8.ofNat (left * 4 + d / 16)]) rest
    | 2 => scan 3 (d % 4) 0 (bytes ++ [UInt8.ofNat (left * 16 + d / 4)]) rest
    | _ => scan 0 0 0 (bytes ++ [UInt8.ofNat (left * 64 + d)]) rest := by
  rw [scan, if_neg (encodeDigit_ne_pad d digit), decodeDigit_encodeDigit d digit]

theorem scan_first (digit : d < 64) : scan 0 left pads bytes (encodeDigit d :: rest) = scan 1 d 0 bytes rest :=
  scan_digit digit

theorem scan_second (digit : d < 64) : scan 1 left pads bytes (encodeDigit d :: rest) =
    scan 2 (d % 16) 0 (bytes ++ [UInt8.ofNat (left * 4 + d / 16)]) rest :=
  scan_digit digit

theorem scan_third (digit : d < 64) : scan 2 left pads bytes (encodeDigit d :: rest) =
    scan 3 (d % 4) 0 (bytes ++ [UInt8.ofNat (left * 16 + d / 4)]) rest :=
  scan_digit digit

theorem scan_fourth (digit : d < 64) : scan 3 left pads bytes (encodeDigit d :: rest) =
    scan 0 0 0 (bytes ++ [UInt8.ofNat (left * 64 + d)]) rest :=
  scan_digit digit

theorem scan_pad_two : scan 2 left 0 bytes ['=', '='] = .ok bytes := rfl

theorem scan_pad_one : scan 3 left 0 bytes ['='] = .ok bytes := rfl

/-- The digits of a group carry its bytes. -/
theorem ofNat_eq {n : Nat} {b : UInt8} (same : n = b.toNat) : UInt8.ofNat n = b := by
  rw [same, UInt8.ofNat_toNat]

theorem scan_encode (encoded : List UInt8) : scan 0 0 0 bytes (encode encoded) = .ok (bytes ++ encoded) := by
  induction encoded using encode.induct generalizing bytes with
  | case1 => rw [encode_nil, scan_end, List.append_nil]
  | case2 a =>
    have small := a.toNat_lt
    rw [encode_one, scan_first (by omega), scan_second (by omega), scan_pad_two, ofNat_eq (b := a) (by omega)]
  | case3 a b =>
    have small := a.toNat_lt
    have small' := b.toNat_lt
    rw [encode_two, scan_first (by omega), scan_second (by omega), scan_third (by omega), scan_pad_one,
      ofNat_eq (b := a) (by omega), ofNat_eq (b := b) (by omega), List.append_assoc]
    rfl
  | case4 a b c rest ih =>
    have small := a.toNat_lt
    have small' := b.toNat_lt
    have small'' := c.toNat_lt
    rw [encode_group, scan_first (by omega), scan_second (by omega), scan_third (by omega), scan_fourth (by omega), ih,
      ofNat_eq (b := a) (by omega), ofNat_eq (b := b) (by omega), ofNat_eq (b := c) (by omega)]
    simp

theorem encode_ascii (encoded : List UInt8) : ∀ c ∈ encode encoded, c.toNat < 128 := by
  induction encoded using encode.induct with
  | case1 => simp [encode_nil]
  | case2 a =>
    have small := a.toNat_lt
    simp only [encode_one, List.forall_mem_cons]
    exact ⟨encodeDigit_ascii _ (by omega), encodeDigit_ascii _ (by omega), by decide, by decide, by simp⟩
  | case3 a b =>
    have small := a.toNat_lt
    have small' := b.toNat_lt
    simp only [encode_two, List.forall_mem_cons]
    exact ⟨encodeDigit_ascii _ (by omega), encodeDigit_ascii _ (by omega), encodeDigit_ascii _ (by omega), by decide,
      by simp⟩
  | case4 a b c rest ih =>
    have small := a.toNat_lt
    have small' := b.toNat_lt
    have small'' := c.toNat_lt
    simp only [encode_group, List.forall_mem_cons]
    exact ⟨encodeDigit_ascii _ (by omega), encodeDigit_ascii _ (by omega), encodeDigit_ascii _ (by omega),
      encodeDigit_ascii _ (by omega), ih⟩

theorem decode_encode (encoded : List UInt8) : decode (encode encoded) = .ok encoded := by
  have ascii : (encode encoded).all (fun c => c.toNat < 128) := by
    simpa using encode_ascii encoded
  rw [decode, if_pos ascii, scan_encode, List.nil_append]

theorem encode_eq_nil_iff {encoded : List UInt8} : encode encoded = [] ↔ encoded = [] := by
  cases encoded with
  | nil => simp [encode_nil]
  | cons a encoded =>
    cases encoded with
    | nil => simp [encode_one]
    | cons b encoded =>
      cases encoded with
      | nil => simp [encode_two]
      | cons c rest => simp [encode_group]

example : decode "QU!JD".toList = .ok [0x41, 0x42, 0x43] := by decide +kernel

end Base64
