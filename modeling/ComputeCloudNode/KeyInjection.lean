import ComputeCloudNode.Lib.TextLines
import ComputeCloudNode.SessionData

/-! The keys that a native SSH session adds to `authorized_keys`. Each is written with a
newline after it, and nothing is written before the first: a last line of the file that has
no newline goes on with that key. -/
namespace ComputeCloudNode.NativeWorkbench
open TextLines

abbrev newlineByte : UInt8 := 10

/-- The bytes of a text, in UTF-8. -/
def encodeText (text : String) : List UInt8 := text.toList.flatMap String.utf8EncodeChar

/-- `_inject_ssh_keys` when nothing fails: what `authorized_keys` holds afterwards. A file
that is not there is made, and holds nothing. -/
def injectSshKeys (content : List UInt8) (sshKeys : List String) : List UInt8 :=
  content ++ sshKeys.flatMap fun key => encodeText (key ++ "\n")

/-! ### Bytes and lines -/

theorem byte_newline {n : Nat} (small : n < 256) (same : newlineByte = UInt8.ofNat n) : n = 10 := by
  have value := congrArg UInt8.toNat same
  rw [UInt8.toNat_ofNat', Nat.mod_eq_of_lt small] at value
  exact value.symm

/-- The byte of a newline belongs to no other character. -/
theorem newline_of_mem {c : Char} (member : newlineByte ∈ String.utf8EncodeChar c) : c = '\n' := by
  have high : ∀ n, 128 ≤ n → n < 256 → newlineByte ≠ UInt8.ofNat n := by
    intro n large small same
    have value := byte_newline small same
    omega
  unfold String.utf8EncodeChar at member
  dsimp only at member
  split at member
  next ascii =>
    have value := byte_newline (by omega) (List.mem_singleton.mp member)
    exact Char.ext (UInt32.toNat_inj.mp value)
  next =>
    exfalso
    split at member
    · simp only [List.mem_cons, List.not_mem_nil, or_false] at member
      rcases member with same | same <;> exact high _ (by omega) (by omega) same
    · split at member
      · simp only [List.mem_cons, List.not_mem_nil, or_false] at member
        rcases member with same | same | same <;> exact high _ (by omega) (by omega) same
      · simp only [List.mem_cons, List.not_mem_nil, or_false] at member
        rcases member with same | same | same | same <;> exact high _ (by omega) (by omega) same

theorem encodeText_plain {key : String} (plain : '\n' ∉ key.toList) : newlineByte ∉ encodeText key := by
  intro member
  obtain ⟨c, inside, byte⟩ := List.mem_flatMap.mp member
  rw [newline_of_mem byte] at inside
  exact plain inside

/-- Each key is written as a record of its own. -/
theorem injectSshKeys_eq (content : List UInt8) (sshKeys : List String) :
    injectSshKeys content sshKeys = content ++ records newlineByte (sshKeys.map encodeText) := by
  have ended : ∀ key : String, encodeText (key ++ "\n") = encodeText key ++ [newlineByte] := by
    intro key
    rw [encodeText, String.toList_append, List.flatMap_append]
    rfl
  unfold injectSshKeys records
  rw [List.flatMap_map]
  simp only [ended]

/-- The lines of the file are kept, and the keys come after them, one to a line, exactly when
no key is added or the last line of the file has ended. Adding keys again adds them all. -/
theorem keys_appended_iff (content : List UInt8) {sshKeys : List String}
    (plain : ∀ key ∈ sshKeys, key ≠ "" ∧ '\n' ∉ key.toList) :
    (lines newlineByte (injectSshKeys content sshKeys) = lines newlineByte content ++ sshKeys.map encodeText ↔
        sshKeys = [] ∨ Ended newlineByte content) ∧
      ∀ more, injectSshKeys (injectSshKeys content sshKeys) more = injectSshKeys content (sshKeys ++ more) := by
  have lines_ : ∀ record ∈ sshKeys.map encodeText, newlineByte ∉ record := by
    intro record member
    obtain ⟨key, inside, rfl⟩ := List.mem_map.mp member
    exact encodeText_plain (plain key inside).2
  constructor
  · rw [injectSshKeys_eq, lines_append_records_iff lines_, List.map_eq_nil_iff]
  · intro more
    unfold injectSshKeys
    rw [List.flatMap_append, List.append_assoc]

/-- The file ends with a newline. -/
theorem keys_appended_owner :
    lines newlineByte (injectSshKeys (encodeText "ssh-rsa OWNER\n") ["ssh-ed25519 RENTER"]) =
      lines newlineByte (encodeText "ssh-rsa OWNER\n") ++ ["ssh-ed25519 RENTER"].map encodeText := by
  refine (keys_appended_iff _ ?_).1.mpr (.inr ?_)
  · decide +kernel
  · intro c last
    have same : (encodeText "ssh-rsa OWNER\n").getLast? = some newlineByte := by decide +kernel
    rw [same] at last
    exact (Option.some.inj last).symm

/-- The last line of the file has no newline. -/
theorem unfinished_line_merged :
    lines newlineByte (injectSshKeys (encodeText "ssh-rsa OWNER") ["ssh-ed25519 RENTER"]) =
        [encodeText "ssh-rsa OWNERssh-ed25519 RENTER"] ∧
      lines newlineByte (injectSshKeys (encodeText "ssh-rsa OWNER") ["ssh-ed25519 RENTER"]) ≠
        lines newlineByte (encodeText "ssh-rsa OWNER") ++ ["ssh-ed25519 RENTER"].map encodeText := by
  decide +kernel

end ComputeCloudNode.NativeWorkbench
