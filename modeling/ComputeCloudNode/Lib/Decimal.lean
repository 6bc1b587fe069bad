import Mathlib.Data.List.TakeWhile

/-! Decimal numbers in text as `\d` of a regular expression and `int` read them:
every Unicode decimal digit counts, and leading zeros are allowed. Numbers are
printed with ASCII digits and no leading zeros, and reading inverts printing. -/
namespace Decimal

/-- The code points of the digits zero of Unicode 15 outside ASCII; each is
followed by its nine other digits. -/
def otherZeros : List Nat :=
  [0x660, 0x6F0, 0x7C0, 0x966, 0x9E6, 0xA66, 0xAE6, 0xB66, 0xBE6, 0xC66, 0xCE6, 0xD66, 0xDE6, 0xE50,
    0xED0, 0xF20, 0x1040, 0x1090, 0x17E0, 0x1810, 0x1946, 0x19D0, 0x1A80, 0x1A90, 0x1B50, 0x1BB0, 0x1C40,
    0x1C50, 0xA620, 0xA8D0, 0xA900, 0xA9D0, 0xA9F0, 0xAA50, 0xABF0, 0xFF10, 0x104A0, 0x10D30, 0x11066,
    0x110F0, 0x11136, 0x111D0, 0x112F0, 0x11450, 0x114D0, 0x11650, 0x116C0, 0x11730, 0x118E0, 0x11950,
    0x11C50, 0x11D50, 0x11DA0, 0x11F50, 0x16A60, 0x16AC0, 0x16B50, 0x1D7CE, 0x1D7D8, 0x1D7E2, 0x1D7EC,
    0x1D7F6, 0x1E140, 0x1E2F0, 0x1E4F0, 0x1E950, 0x1FBF0]

def digit? (c : Char) : Option Nat :=
  ((0x30 :: otherZeros).find? fun first => first ≤ c.toNat && c.toNat < first + 10).map fun first =>
    c.toNat - first

/-- `\d`. -/
def isDigit (c : Char) : Bool := (digit? c).isSome

/-- `int` of a string of digits. -/
def value (digits : List Char) : Nat := digits.foldl (fun sofar c => 10 * sofar + (digit? c).getD 0) 0

/-- `(\d+)\.` at the start of a text: the number and what follows the dot. -/
def numberDot (cs : List Char) : Option (Nat × List Char) :=
  match cs.takeWhile isDigit, cs.dropWhile isDigit with
  | digit :: digits, '.' :: rest => some (value (digit :: digits), rest)
  | _, _ => none

theorem digit?_ascii {c : Char} (ascii : c.isDigit) : digit? c = some (c.toNat - '0'.toNat) := by
  have bounds : 48 ≤ c.toNat ∧ c.toNat ≤ 57 := by
    simp only [Char.isDigit, Bool.and_eq_true, decide_eq_true_eq, ge_iff_le, UInt32.le_iff_toNat_le] at ascii
    exact ascii
  have found : (0x30 :: otherZeros).find? (fun first => first ≤ c.toNat && c.toNat < first + 10) = some 0x30 := by
    refine List.find?_cons_of_pos ?_
    simp only [Bool.and_eq_true, decide_eq_true_eq]
    omega
  rw [digit?, found]
  rfl

theorem isDigit_of_ascii {c : Char} (ascii : c.isDigit) : isDigit c := by
  rw [isDigit, digit?_ascii ascii]
  rfl

theorem value_ascii {digits : List Char} (ascii : ∀ c ∈ digits, c.isDigit) (sofar : Nat) :
    digits.foldl (fun sofar c => 10 * sofar + (digit? c).getD 0) sofar = Nat.ofDigitChars 10 digits sofar := by
  induction digits generalizing sofar with
  | nil => rfl
  | cons c digits ih =>
    obtain ⟨here, rest⟩ := List.forall_mem_cons.mp ascii
    rw [List.foldl_cons, ih rest, digit?_ascii here, Nat.ofDigitChars_cons, Option.getD_some]

theorem toString_toList (n : Nat) : (toString n).toList = Nat.toDigits 10 n := by
  rw [Nat.toString_eq_repr, Nat.toList_repr]

theorem isDigit_toString {n : Nat} {c : Char} (member : c ∈ (toString n).toList) : c.isDigit := by
  rw [toString_toList] at member
  exact Nat.isDigit_of_mem_toDigits (by decide) (by decide) member

theorem value_toString (n : Nat) : value (toString n).toList = n := by
  rw [value, value_ascii fun c member => isDigit_toString member, toString_toList]
  exact Nat.ofDigitChars_ten_toDigits

/-- The text of a match: some digits, a dot and the rest. -/
theorem numberDot_eq_some_iff {cs rest : List Char} {n : Nat} : numberDot cs = some (n, rest) ↔
    ∃ digits, digits ≠ [] ∧ (∀ c ∈ digits, isDigit c) ∧ value digits = n ∧ cs = digits ++ '.' :: rest := by
  constructor
  · intro read
    unfold numberDot at read
    split at read
    next digit digits after taken dropped =>
      cases read
      refine ⟨digit :: digits, by simp, fun c member => ?_, rfl, ?_⟩
      · exact List.mem_takeWhile_imp (taken ▸ member)
      · rw [← taken, ← dropped, List.takeWhile_append_dropWhile]
    next => cases read
  · rintro ⟨digits, nonempty, digital, rfl, rfl⟩
    have stops : isDigit '.' = false := by decide
    obtain ⟨digit, others, rfl⟩ := List.exists_cons_of_ne_nil nonempty
    rw [numberDot, List.takeWhile_append_of_pos digital, List.dropWhile_append_of_pos digital,
      List.takeWhile_cons_of_neg (by simp [stops]), List.dropWhile_cons_of_neg (by simp [stops]), List.append_nil]
    rfl

theorem numberDot_toString (n : Nat) (rest : List Char) :
    numberDot ((toString n).toList ++ '.' :: rest) = some (n, rest) := by
  refine numberDot_eq_some_iff.mpr ⟨(toString n).toList, ?_, fun c member => ?_, value_toString n, rfl⟩
  · rw [toString_toList]
    exact Nat.toDigits_ne_nil
  · exact isDigit_of_ascii (isDigit_toString member)

end Decimal
