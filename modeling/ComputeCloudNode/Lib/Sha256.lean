import Mathlib.Tactic

/-! SHA-256. A block is consumed by 64 rounds, each of which takes the first word of
the message schedule and appends the word that follows the sixteen at hand. -/
namespace Sha256

/-- The round constants. -/
def constants : List UInt32 :=
  [0x428a2f98, 0x71374491, 0xb5c0fbcf, 0xe9b5dba5, 0x3956c25b, 0x59f111f1, 0x923f82a4, 0xab1c5ed5,
    0xd807aa98, 0x12835b01, 0x243185be, 0x550c7dc3, 0x72be5d74, 0x80deb1fe, 0x9bdc06a7, 0xc19bf174,
    0xe49b69c1, 0xefbe4786, 0x0fc19dc6, 0x240ca1cc, 0x2de92c6f, 0x4a7484aa, 0x5cb0a9dc, 0x76f988da,
    0x983e5152, 0xa831c66d, 0xb00327c8, 0xbf597fc7, 0xc6e00bf3, 0xd5a79147, 0x06ca6351, 0x14292967,
    0x27b70a85, 0x2e1b2138, 0x4d2c6dfc, 0x53380d13, 0x650a7354, 0x766a0abb, 0x81c2c92e, 0x92722c85,
    0xa2bfe8a1, 0xa81a664b, 0xc24b8b70, 0xc76c51a3, 0xd192e819, 0xd6990624, 0xf40e3585, 0x106aa070,
    0x19a4c116, 0x1e376c08, 0x2748774c, 0x34b0bcb5, 0x391c0cb3, 0x4ed8aa4a, 0x5b9cca4f, 0x682e6ff3,
    0x748f82ee, 0x78a5636f, 0x84c87814, 0x8cc70208, 0x90befffa, 0xa4506ceb, 0xbef9a3f7, 0xc67178f2]

/-- The eight working variables, or the hash value between two blocks. -/
structure Words where
  a : UInt32
  b : UInt32
  c : UInt32
  d : UInt32
  e : UInt32
  f : UInt32
  g : UInt32
  h : UInt32

def start : Words :=
  ⟨0x6a09e667, 0xbb67ae85, 0x3c6ef372, 0xa54ff53a,
    0x510e527f, 0x9b05688c, 0x1f83d9ab, 0x5be0cd19⟩

def rotate (x n : UInt32) : UInt32 := (x >>> n) ||| (x <<< (32 - n))

def round (k w : UInt32) (s : Words) : Words :=
  let sum1 := rotate s.e 6 ^^^ rotate s.e 11 ^^^ rotate s.e 25
  let choice := (s.e &&& s.f) ^^^ (~~~s.e &&& s.g)
  let first := s.h + sum1 + choice + k + w
  let sum0 := rotate s.a 2 ^^^ rotate s.a 13 ^^^ rotate s.a 22
  let majority := (s.a &&& s.b) ^^^ (s.a &&& s.c) ^^^ (s.b &&& s.c)
  ⟨first + sum0 + majority, s.a, s.b, s.c, s.d + first, s.e, s.f, s.g⟩

/-- The word of the schedule that follows sixteen others. -/
def nextWord (w : UInt32) (window : List UInt32) : UInt32 :=
  let w1 := window.getD 0 0
  let w14 := window.getD 13 0
  w + (rotate w1 7 ^^^ rotate w1 18 ^^^ (w1 >>> 3)) + window.getD 8 0 +
    (rotate w14 17 ^^^ rotate w14 19 ^^^ (w14 >>> 10))

def rounds : List UInt32 → List UInt32 → Words → Words
  | k :: ks, w :: window, s => rounds ks (window ++ [nextWord w window]) (round k w s)
  | _, _, s => s

def addWords (s t : Words) : Words :=
  ⟨s.a + t.a, s.b + t.b, s.c + t.c, s.d + t.d, s.e + t.e, s.f + t.f, s.g + t.g, s.h + t.h⟩

def ofBytes : List UInt8 → List UInt32
  | a :: b :: c :: d :: rest =>
    (a.toUInt32 <<< 24 ||| b.toUInt32 <<< 16 ||| c.toUInt32 <<< 8 ||| d.toUInt32) :: ofBytes rest
  | _ => []

def toBytes (x : UInt32) : List UInt8 := [(x >>> 24).toUInt8, (x >>> 16).toUInt8, (x >>> 8).toUInt8, x.toUInt8]

/-- The message with its length in bits after it, in whole blocks. -/
def pad (message : List UInt8) : List UInt8 :=
  let length := 8 * message.length
  message ++ 0x80 :: List.replicate ((119 - message.length % 64) % 64) 0 ++
    (List.range 8).map fun i => UInt8.ofNat (length / 256 ^ (7 - i))

def blocks : Nat → List UInt32 → Words → Words
  | 0, _, s => s
  | n + 1, words, s => blocks n (words.drop 16) (addWords s (rounds constants (words.take 16) s))

def digest (message : List UInt8) : List UInt8 :=
  let padded := pad message
  let s := blocks (padded.length / 64) (ofBytes padded) start
  [s.a, s.b, s.c, s.d, s.e, s.f, s.g, s.h].flatMap toBytes

/-- The digest of "abc". -/
example : (digest [0x61, 0x62, 0x63]).take 8 = [0xba, 0x78, 0x16, 0xbf, 0x8f, 0x01, 0xcf, 0xea] := by
  decide +kernel

end Sha256
